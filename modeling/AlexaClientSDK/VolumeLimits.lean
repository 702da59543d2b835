import AlexaClientSDK.SpeakerManager

/-!
# The maximum volume limit

Every request is lowered to the limit first, so volumes only leave the range when a channel joins with a volume of its
own, and when the limit is lowered. Lowering it looks at the settings that the speakers show, and takes it as success if
the speakers agree afterwards, which they also do if the first of them has refused in every round.
-/

namespace AlexaClientSDK.SpeakerManager

open Option List LabelledRuns RetryRounds Manager ChannelVolumeManager

/-- A volume is between the least one and the limit. -/
def InLimit (limit volume : ℤ) : Prop := AVS_SET_VOLUME_MIN≤volume ∧ volume≤limit

instance (limit volume : ℤ) : Decidable (InLimit limit volume) := inferInstanceAs (Decidable (_ ∧ _))

/-- The volume that is kept, and the one the settings show. -/
def Within (limit : ℤ) (c : ChannelVolumeManager) : Prop :=
  InLimit limit c.m_unduckedVolume ∧ InLimit limit c.shownVolume

instance (limit : ℤ) (c : ChannelVolumeManager) : Decidable (Within limit c) := inferInstanceAs (Decidable (_ ∧ _))

/-- The unducked volumes of all registered speakers are. -/
def LimitHolds (m : Manager) : Prop :=
  ∀ type,∀ c∈m.m_speakerMap type,Within m.m_maximumVolumeLimit c

/-- The limit is not below the least volume, and where a channel is louder the first one shows so and accepts
it. -/
def Lowerable (limit : ℤ) (cancelled : ℕ → Bool) : List ChannelVolumeManager → Prop
  | [] => True
  | first::others =>
    AVS_SET_VOLUME_MIN≤limit ∧ ((∃ c∈first::others,limit<c.m_unduckedVolume ∨ limit<c.shownVolume) →
        limit<first.shownVolume ∧ acceptsWithin (setUnduckedVolume limit) cancelled 3 0 first=true)

/-- The channels of every type give their settings and agree. -/
def Agreeing (m : Manager) : Prop :=
  ∀ type,m.m_speakerMap type≠[] → (commonSettings (m.m_speakerMap type)).1.isSome=true

/-- Joined and set where the limit allows. -/
def Observed (m : Manager) : Event → Prop
  | .addChannelVolumeInterface channel => Within m.m_maximumVolumeLimit channel
  | .setMaximumVolumeLimit limit cancelled =>
    withinBounds limit AVS_ADJUST_VOLUME_MIN AVS_ADJUST_VOLUME_MAX=true → Agreeing m →
      ∀ type,Lowerable limit (cancelled type) (m.m_speakerMap type)
  | .setVolume _ _ _ | .adjustVolume _ _ _ | .setMute _ _ _ | .getSpeakerSettings _ | .handleDirective _ _ _
  | .startDucking _ _ | .stopDucking _ _ => True

variable {limit : ℤ} {c : ChannelVolumeManager}

theorem Speaker.change_settings (s : Speaker) (settings : SpeakerSettings) :
    ((s.change settings).1=true ∧ (s.change settings).2.settings=settings) ∨
      ((s.change settings).1=false ∧ (s.change settings).2.settings=s.settings) := by
  unfold Speaker.change
  split
  · exact .inl ⟨rfl,rfl⟩
  · exact .inr ⟨rfl,rfl⟩

theorem within_getSpeakerSettings (h : Within limit c) : Within limit c.getSpeakerSettings.2 := h

variable {settings : SpeakerSettings}

theorem volume_of_getSpeakerSettings (h : c.getSpeakerSettings.1=some settings) : settings.volume=c.shownVolume := by
  unfold getSpeakerSettings Speaker.getSpeakerSettings at h
  obtain ⟨own,hown,rfl⟩ := map_eq_some_iff.mp h
  split at hown
  · rw [←some.inj hown]
    unfold shownVolume
    split <;> rfl
  · cases hown

theorem setUnduckedVolume_cases (volume : ℤ) (c : ChannelVolumeManager) :
    ((c.setUnduckedVolume volume).1=false ∧ (c.setUnduckedVolume volume).2=c) ∨
      (AVS_SET_VOLUME_MIN≤volume ∧ (c.setUnduckedVolume volume).2.m_unduckedVolume=volume ∧
        (((c.setUnduckedVolume volume).1=true ∧ (c.setUnduckedVolume volume).2.shownVolume=volume) ∨
          ((c.setUnduckedVolume volume).1=false ∧ (c.setUnduckedVolume volume).2.shownVolume=c.shownVolume))) := by
  unfold setUnduckedVolume
  split
  · exact .inl ⟨rfl,rfl⟩
  · next hbounds =>
    have hmin : AVS_SET_VOLUME_MIN≤volume := by
      unfold withinBounds at hbounds
      grind
    refine .inr ⟨hmin,?_⟩
    split
    · next hducked => exact ⟨rfl,.inl ⟨rfl,if_pos hducked⟩⟩
    · next hducked =>
      refine ⟨rfl,?_⟩
      unfold shownVolume
      rw [if_neg hducked,if_neg hducked]
      rcases c.m_speaker.change_settings {c.m_speaker.settings with volume := volume} with h | h
      · exact .inl ⟨h.1,congrArg SpeakerSettings.volume h.2⟩
      · exact .inr ⟨h.1,congrArg SpeakerSettings.volume h.2⟩

variable {volume : ℤ}

theorem within_setUnduckedVolume (hvolume : volume≤limit) (h : Within limit c) :
    Within limit (c.setUnduckedVolume volume).2 := by
  rcases setUnduckedVolume_cases volume c with ⟨_,hsame⟩|⟨hmin,hkept,hshown⟩
  · rw [hsame]
    exact h
  · unfold Within
    rw [hkept]
    rcases hshown with ⟨_,hshown⟩|⟨_,hshown⟩
    · rw [hshown]
      exact ⟨⟨hmin,hvolume⟩,hmin,hvolume⟩
    · rw [hshown]
      exact ⟨⟨hmin,hvolume⟩,h.2⟩

theorem within_setMute (mute : Bool) (h : Within limit c) : Within limit (c.setMute mute).2 := by
  have hvolume : (c.m_speaker.setMute mute).2.settings.volume=c.m_speaker.settings.volume := by
    unfold Speaker.setMute
    rcases c.m_speaker.change_settings {c.m_speaker.settings with mute := mute} with hchange | hchange
    · rw [hchange.2]
    · rw [hchange.2]
  have hshown : (c.setMute mute).2.shownVolume=c.shownVolume := by
    unfold shownVolume setMute
    rw [hvolume]
  exact ⟨h.1,hshown ▸ h.2⟩

/-- A ducked channel shows its own volume. -/
theorem within_of_speaker {speaker : Speaker} {ducked : Bool} (hkept : InLimit limit c.m_unduckedVolume)
    (hspeaker : ducked=false → InLimit limit speaker.settings.volume) :
    Within limit {c with m_speaker := speaker,m_isDucked := ducked} := by
  refine ⟨hkept,?_⟩
  cases ducked with
  | false => exact hspeaker rfl
  | true => exact hkept

theorem within_startDucking (h : Within limit c) : Within limit c.startDucking.2 := by
  unfold startDucking
  split
  · exact h
  · next hducked =>
    refine within_of_speaker h.1 fun hrefused => ?_
    have hshown : InLimit limit c.shownVolume := h.2
    unfold shownVolume at hshown
    rw [if_neg hducked] at hshown
    unfold Speaker.setVolume at hrefused ⊢
    rcases c.m_speaker.change_settings
      {c.m_speaker.settings with volume := c.m_volumeCurveFunction c.m_unduckedVolume} with hchange | hchange
    · rw [hchange.1] at hrefused
      cases hrefused
    · rw [hchange.2]
      exact hshown

theorem within_stopDucking (h : Within limit c) : Within limit c.stopDucking.2 := by
  unfold stopDucking
  split
  · exact h
  · refine within_of_speaker h.1 fun haccepted => ?_
    unfold Speaker.setVolume at haccepted ⊢
    rcases c.m_speaker.change_settings {c.m_speaker.settings with volume := c.m_unduckedVolume} with hchange | hchange
    · rw [hchange.2]
      exact h.1
    · rw [hchange.1] at haccepted
      cases haccepted

variable {first : ChannelVolumeManager}

theorem commonSettings_none (h : first.getSpeakerSettings.1=none) (others : List ChannelVolumeManager) :
    commonSettings (first::others)=(none,first.getSpeakerSettings.2::others) := by
  rw [commonSettings,h]

theorem commonSettings_some {comparator : SpeakerSettings}
    (h : first.getSpeakerSettings.1=some comparator) (others : List ChannelVolumeManager) :
    commonSettings (first::others) = (if (askAll (sameSettings comparator) others).1 then some comparator else none,
        first.getSpeakerSettings.2::(askAll (sameSettings comparator) others).2) := by
  rw [commonSettings,h]

variable {channels : List ChannelVolumeManager}

theorem commonSettings_forall {good : ChannelVolumeManager → Prop} (hread : ∀ c,good c → good c.getSpeakerSettings.2)
    (h : ∀ c∈channels,good c) : ∀ c∈(commonSettings channels).2,good c := by
  cases channels with
  | nil => exact h
  | cons first others =>
    obtain ⟨hfirst,hothers⟩ := forall_mem_cons.mp h
    cases hsettings : first.getSpeakerSettings.1 with
    | none =>
      rw [commonSettings_none hsettings]
      exact forall_mem_cons.mpr ⟨hread first hfirst,hothers⟩
    | some comparator =>
      rw [commonSettings_some hsettings]
      have hasked : ∀ c∈(askAll (sameSettings comparator) others).2,good c := askAll_forall hread hothers
      exact forall_mem_cons.mpr ⟨hread first hfirst,hasked⟩

theorem shownVolume_of_commonSettings
    (h : (commonSettings channels).1=some settings) : ∀ c∈channels,c.shownVolume=settings.volume := by
  cases channels with
  | nil => cases h
  | cons first =>
    cases hfirst : first.getSpeakerSettings.1 with
    | none =>
      rw [commonSettings_none hfirst] at h
      cases h
    | some =>
      rw [commonSettings_some hfirst] at h
      split at h
      · next hall =>
        rw [←some.inj h]
        refine forall_mem_cons.mpr ⟨(volume_of_getSpeakerSettings hfirst).symm,fun c hc => ?_⟩
        exact (volume_of_getSpeakerSettings (of_decide_eq_true (askAll_accepted hall c hc))).symm
      · cases h

theorem commonSettings_cons (first : ChannelVolumeManager) (others : List ChannelVolumeManager) :
    ∃ rest,(commonSettings (first::others)).2=first.getSpeakerSettings.2::rest := by
  cases hfirst : first.getSpeakerSettings.1 with
  | none => exact ⟨_,congrArg Prod.snd (commonSettings_none hfirst others)⟩
  | some => exact ⟨_,congrArg Prod.snd (commonSettings_some hfirst others)⟩

/-- The limit and other types stay, and those of one stay good. -/
structure Leads (good : ChannelVolumeManager → Prop) (type : SpeakerType) (m after : Manager) : Prop where
  limit : after.m_maximumVolumeLimit=m.m_maximumVolumeLimit
  others : ∀ other,other≠type → after.m_speakerMap other=m.m_speakerMap other
  kept : (∀ c∈m.m_speakerMap type,good c) → ∀ c∈after.m_speakerMap type,good c

open Leads

variable {good : ChannelVolumeManager → Prop} {type : SpeakerType} {m after : Manager}

theorem Leads.refl : Leads good type m m := ⟨rfl,fun _ _ => rfl,fun h => h⟩

theorem Leads.trans {later : Manager} (h : Leads good type m after) (h' : Leads good type after later) :
    Leads good type m later :=
  ⟨h'.limit.trans h.limit,fun other hother => (h'.others other hother).trans (h.others other hother),
    fun hgood => h'.kept (h.kept hgood)⟩

theorem leads_setSpeakers (h : (∀ c∈m.m_speakerMap type,good c) → ∀ c∈channels,good c) :
    Leads good type m (m.setSpeakers type channels) := by
  refine ⟨rfl,fun other hother => if_neg hother,fun hgood => ?_⟩
  have hspeakers : (m.setSpeakers type channels).m_speakerMap type=channels := if_pos rfl
  rw [hspeakers]
  exact h hgood

section

variable (hread : ∀ c,good c → good c.getSpeakerSettings.2)
include hread

theorem leads_validate : Leads good type m (m.validateSpeakerSettingsConsistency type).2 :=
  leads_setSpeakers (commonSettings_forall hread)

theorem leads_executeGetSpeakerSettings : Leads good type m (m.executeGetSpeakerSettings type).2 := by
  unfold executeGetSpeakerSettings
  split
  · exact refl
  · exact leads_validate hread

end

variable {cancelled : ℕ → Bool}

theorem leads_retryAndApplySettings {task : ChannelVolumeManager → Bool × ChannelVolumeManager}
    (htask : ∀ c,good c → good (task c).2) : Leads good type m (m.retryAndApplySettings type task cancelled) :=
  leads_setSpeakers (retry_forall htask 3 0)

theorem leads_executeSetVolume (hread : ∀ c,good c → good c.getSpeakerSettings.2)
    (htask : ∀ c adjusted,adjusted ≤ m.m_maximumVolumeLimit → adjusted≤volume → good c →
      good (c.setUnduckedVolume adjusted).2) : Leads good type m (m.executeSetVolume type volume cancelled).2 := by
  unfold executeSetVolume
  split
  · exact refl
  · dsimp only
    split
    · exact leads_executeGetSpeakerSettings hread
    · refine (leads_executeGetSpeakerSettings hread).trans (trans ?_ (leads_validate hread))
      refine leads_retryAndApplySettings fun c hc => ?_
      split
      · exact htask c _ (Int.le_refl _) (by omega) hc
      · exact htask c _ (by omega) (Int.le_refl _) hc

theorem within_executeSetVolume (volume : ℤ) (cancelled : ℕ → Bool) :
    Leads (Within m.m_maximumVolumeLimit) type m (m.executeSetVolume type volume cancelled).2 :=
  leads_executeSetVolume (fun _ => within_getSpeakerSettings) fun _ _ hlimit _ => within_setUnduckedVolume hlimit

/-- Storing a volume in an `int8_t` makes none greater that is not negative. -/
theorem int8_le {value : ℤ} (h : 0≤value) : int8 value≤value := by
  unfold int8
  omega

theorem validate_some (h : (m.validateSpeakerSettingsConsistency type).1=some settings) :
    (∀ c∈(m.validateSpeakerSettingsConsistency type).2.m_speakerMap type,c.shownVolume=settings.volume) ∧
      ∃ first others rest,m.m_speakerMap type=first::others ∧ first.shownVolume=settings.volume ∧
        (m.validateSpeakerSettingsConsistency type).2.m_speakerMap type=first.getSpeakerSettings.2::rest := by
  have hshown := shownVolume_of_commonSettings h
  have hspeakers : (m.validateSpeakerSettingsConsistency type).2.m_speakerMap type =
      (commonSettings (m.m_speakerMap type)).2 := if_pos rfl
  rw [hspeakers]
  refine ⟨commonSettings_forall (fun _ hc => hc) hshown,?_⟩
  cases hchannels : m.m_speakerMap type with
  | nil =>
    unfold validateSpeakerSettingsConsistency at h
    rw [hchannels] at h
    cases h
  | cons first others =>
    rw [hchannels] at hshown
    obtain ⟨rest,hrest⟩ := commonSettings_cons first others
    exact ⟨first,others,rest,rfl,hshown first mem_cons_self,hrest⟩

theorem executeGetSpeakerSettings_some (h : (m.executeGetSpeakerSettings type).1=some settings) :
    m.executeGetSpeakerSettings type=m.validateSpeakerSettingsConsistency type := by
  unfold executeGetSpeakerSettings at h ⊢
  split at h
  · cases h
  · next hempty => exact if_neg hempty

theorem adjustedVolume_le {delta : ℤ} (h : InLimit limit volume) : adjustedVolume volume delta limit≤limit := by
  obtain ⟨hmin,hmax⟩ := h
  unfold AVS_SET_VOLUME_MIN at hmin
  unfold adjustedVolume AVS_SET_VOLUME_MIN
  have hclamped : (if volume > limit then limit else volume)=volume := if_neg (by omega)
  rw [hclamped]
  split
  · exact Int.le_trans (int8_le (by omega)) (by omega)
  · exact Int.le_trans (int8_le (by omega)) (by omega)

theorem within_executeAdjustVolume (delta : ℤ) (cancelled : ℕ → Bool) :
    Leads (Within m.m_maximumVolumeLimit) type m (m.executeAdjustVolume type delta cancelled).2 := by
  unfold executeAdjustVolume
  split
  · exact refl
  · next hempty =>
    have hgot : Leads (Within m.m_maximumVolumeLimit) type m (m.executeGetSpeakerSettings type).2 :=
      leads_executeGetSpeakerSettings fun _ => within_getSpeakerSettings
    dsimp only
    split
    · next settings hsettings =>
      refine hgot.trans (trans ?_ (leads_validate fun _ => within_getSpeakerSettings))
      refine leads_setSpeakers fun hwithin => ?_
      have hvalidated := executeGetSpeakerSettings_some hsettings
      rw [hvalidated] at hsettings hwithin ⊢
      obtain ⟨hshown,first,others,rest,hchannels,_,hafter⟩ := validate_some hsettings
      have hsettingsWithin : InLimit m.m_maximumVolumeLimit settings.volume := by
        have hfirst : first.getSpeakerSettings.2∈(m.validateSpeakerSettingsConsistency type).2.m_speakerMap type :=
          hafter ▸ mem_cons_self
        rw [←hshown _ hfirst]
        exact (hwithin _ hfirst).2
      exact retry_forall (fun c hc => within_setUnduckedVolume (adjustedVolume_le hsettingsWithin) hc) 3 0 hwithin
    · exact hgot

/-- The limit stays, and channels of one type that are within it stay so. -/
abbrev Obeys (type : SpeakerType) (m after : Manager) : Prop := Leads (Within m.m_maximumVolumeLimit) type m after

theorem Obeys.trans {later : Manager} (h : Obeys type m after) (h' : Obeys type after later) : Obeys type m later := by
  unfold Obeys at h'
  rw [h.limit] at h'
  exact Leads.trans h h'

theorem obeys_validate (type : SpeakerType) (m : Manager) :
    Obeys type m (m.validateSpeakerSettingsConsistency type).2 :=
  leads_validate fun _ => within_getSpeakerSettings

theorem obeys_executeRestoreVolume (cancelled : ℕ → Bool) : Obeys type m (m.executeRestoreVolume type cancelled).2 := by
  unfold executeRestoreVolume
  dsimp only
  split
  · split
    · exact obeys_validate type m
    · exact (obeys_validate type m).trans (within_executeSetVolume _ _)
  · exact obeys_validate type m

theorem obeys_executeSetMute (mute : Bool) (cancelled : ℕ → Bool) :
    Obeys type m (m.executeSetMute type mute cancelled).2 := by
  have hchecked : Obeys type m (if !mute then m.validateSpeakerSettingsConsistency type else (none,m)).2 := by
    split
    · exact obeys_validate type m
    · exact refl
  unfold executeSetMute
  generalize (if !mute then m.validateSpeakerSettingsConsistency type else (none,m))=checked at hchecked ⊢
  dsimp only
  split
  · exact hchecked
  · split
    · exact hchecked
    · refine hchecked.trans (Obeys.trans ?_ (obeys_validate type _))
      exact leads_retryAndApplySettings fun _ => within_setMute mute

theorem obeys_andThen {first : Bool × Manager} {second : Manager → Bool × Manager} (h : Obeys type m first.2)
    (hsecond : ∀ m,Obeys type m (second m).2) : Obeys type m (andThen first second).2 := by
  unfold andThen
  split
  · exact h.trans (hsecond first.2)
  · exact h

theorem obeys_handleDirective (directive : Manager.Directive) (muteCancelled volumeCancelled : ℕ → Bool) :
    Obeys .AVS_SPEAKER_VOLUME m (m.handleDirective directive muteCancelled volumeCancelled).2 := by
  cases directive with
  | SetVolume volume =>
    cases volume with
    | none => exact refl
    | some =>
      unfold handleDirective
      dsimp only
      split
      · exact refl
      · split
        · exact refl
        · exact obeys_andThen (obeys_executeSetMute _ _) fun _ => within_executeSetVolume _ _
  | AdjustVolume delta =>
    cases delta with
    | none => exact refl
    | some =>
      unfold handleDirective
      dsimp only
      split
      · exact refl
      · split
        · exact refl
        · exact obeys_andThen (obeys_executeSetMute _ _) fun _ => within_executeAdjustVolume _ _
  | SetMute mute =>
    cases mute with
    | none => exact refl
    | some =>
      unfold handleDirective
      dsimp only
      split
      · exact refl
      · refine Obeys.trans ?_ (obeys_executeSetMute _ _)
        split
        · exact obeys_executeRestoreVolume _
        · exact refl

theorem limitHolds_of_obeys (h : Obeys type m after) (hholds : LimitHolds m) : LimitHolds after := by
  intro other c hc
  rw [h.limit]
  by_cases hother : other=type
  · subst hother
    exact h.kept (hholds other) c hc
  · rw [h.others other hother] at hc
    exact hholds other c hc

/-- A speaker that is asked for its settings answers other requests as before. -/
theorem change_getSpeakerSettings (s : Speaker) (settings : SpeakerSettings) :
    s.getSpeakerSettings.2.change settings = ((s.change settings).1,(s.change settings).2.getSpeakerSettings.2) := by
  unfold Speaker.change Speaker.getSpeakerSettings
  dsimp only
  split
  · rfl
  · rfl

theorem setUnduckedVolume_getSpeakerSettings (volume : ℤ) (c : ChannelVolumeManager) :
    c.getSpeakerSettings.2.setUnduckedVolume volume =
      ((c.setUnduckedVolume volume).1,(c.setUnduckedVolume volume).2.getSpeakerSettings.2) := by
  obtain ⟨speaker,ducked,kept,type,curve⟩ := c
  unfold setUnduckedVolume getSpeakerSettings
  split
  · rfl
  · cases ducked with
    | true => rfl
    | false =>
      have hchange := change_getSpeakerSettings speaker {speaker.settings with volume := volume}
      exact congrArg (fun answer : Bool × Speaker =>
        (answer.1,(⟨answer.2,false,volume,type,curve⟩ : ChannelVolumeManager))) hchange

theorem acceptsWithin_getSpeakerSettings (volume : ℤ) (cancelled : ℕ → Bool) (c : ChannelVolumeManager) :
    acceptsWithin (setUnduckedVolume volume) cancelled 3 0 c.getSpeakerSettings.2 =
      acceptsWithin (setUnduckedVolume volume) cancelled 3 0 c := by
  refine @acceptsWithin_congr _ _ cancelled (fun c => c.getSpeakerSettings.2) (fun c => ?_) (fun c => ?_) 3 0 c
  · rw [setUnduckedVolume_getSpeakerSettings]
  · rw [setUnduckedVolume_getSpeakerSettings]

/-- Where settings that agree are not above a new limit, the channels are within it. -/
theorem within_of_quiet (hwithin : ∀ c∈m.m_speakerMap type,Within m.m_maximumVolumeLimit c)
    (hlower : Lowerable limit cancelled (m.m_speakerMap type))
    (hgot : (m.validateSpeakerSettingsConsistency type).1=some settings) (hquiet : settings.volume≤limit) :
    ∀ c∈(m.validateSpeakerSettingsConsistency type).2.m_speakerMap type,Within limit c := by
  have hleads : Leads (Within limit) type m (m.validateSpeakerSettingsConsistency type).2 :=
    leads_validate fun _ => within_getSpeakerSettings
  refine hleads.kept fun c hc => ?_
  have hshown := shownVolume_of_commonSettings hgot c hc
  obtain ⟨_,first,others,_,hchannels,hfirst,_⟩ := validate_some hgot
  rw [hchannels] at hlower hc
  refine ⟨⟨(hwithin c (hchannels ▸ hc)).1.1,?_⟩,(hwithin c (hchannels ▸ hc)).2.1,by omega⟩
  by_cases hkept : c.m_unduckedVolume≤limit
  · exact hkept
  · have hlouder := (hlower.2 ⟨c,hc,.inl (by omega)⟩).1
    omega

theorem setUnduckedVolume_or {shown : ℤ} (h : c.m_unduckedVolume=volume ∨ c.shownVolume=shown) :
    (c.setUnduckedVolume volume).2.m_unduckedVolume=volume ∨ (c.setUnduckedVolume volume).2.shownVolume=shown := by
  rcases setUnduckedVolume_cases volume c with ⟨_,hsame⟩|⟨_,hkept,_⟩
  · rw [hsame]
    exact h
  · exact .inl hkept

/-- Asked for the volume it shows, it shows it again. -/
theorem shownVolume_setUnduckedVolume (h : c.shownVolume=volume) :
    (c.setUnduckedVolume volume).2.shownVolume=volume := by
  rcases setUnduckedVolume_cases volume c with ⟨_,hsame⟩|⟨_,_,⟨_,hshown⟩|⟨_,hshown⟩⟩
  · rw [hsame]
    exact h
  · exact hshown
  · exact hshown.trans h

theorem shownVolume_of_accepted (h : (c.setUnduckedVolume volume).1=true) :
    (c.setUnduckedVolume volume).2.shownVolume=volume := by
  rcases setUnduckedVolume_cases volume c with ⟨hrefused,_⟩|⟨_,_,⟨_,hshown⟩|⟨hrefused,_⟩⟩
  · rw [h] at hrefused
    cases hrefused
  · exact hshown
  · rw [h] at hrefused
    cases hrefused

theorem lowered_of_settled {shown : ℤ} {rest : List ChannelVolumeManager} (hmin : AVS_SET_VOLUME_MIN≤limit)
    (hne : shown≠limit) (hchannels : m.m_speakerMap type=first::rest)
    (hshown : ∀ c∈m.m_speakerMap type,c.shownVolume=shown)
    (haccepts : acceptsWithin (setUnduckedVolume limit) cancelled 3 0 first=true)
    (hafter : after=m.retryAndApplySettings type (setUnduckedVolume limit) cancelled)
    (hsettled : (after.validateSpeakerSettingsConsistency type).1=some settings) :
    ∀ c∈(after.validateSpeakerSettingsConsistency type).2.m_speakerMap type,Within limit c := by
  have hspeakers : after.m_speakerMap type =
      retry (askAll (setUnduckedVolume limit)) cancelled 3 0 (m.m_speakerMap type) :=
    hafter ▸ if_pos rfl
  have hasked : ∀ c∈after.m_speakerMap type,c.m_unduckedVolume=limit ∨ c.shownVolume=shown := by
    rw [hspeakers]
    exact retry_forall (fun _ => setUnduckedVolume_or) 3 0 fun c hc => .inr (hshown c hc)
  obtain ⟨hagreed,head,others,_,hhead,hheadShown,_⟩ := validate_some hsettled
  have hvolume : settings.volume=limit := by
    have haccepted : ∃ head others, retry (askAll (setUnduckedVolume limit)) cancelled 3 0 (first::rest)=head::others ∧
          head.shownVolume=limit :=
      retry_head_accepted (fun _ => shownVolume_setUnduckedVolume) (fun _ => shownVolume_of_accepted) 3 0 haccepts
    obtain ⟨_,_,hsplit,hfirst⟩ := haccepted
    rw [hspeakers,hchannels,hsplit] at hhead
    rw [←hheadShown,←(List.cons.inj hhead).1]
    exact hfirst
  have hleads : Leads (fun c => c.m_unduckedVolume=limit ∨ c.shownVolume=shown) type after
      (after.validateSpeakerSettingsConsistency type).2 := leads_validate fun _ h => h
  intro c hc
  have hcShown := hagreed c hc
  rw [hvolume] at hcShown
  have hcKept : c.m_unduckedVolume=limit := by
    rcases hleads.kept hasked c hc with hkept|hold
    · exact hkept
    · exact absurd (hold.symm.trans hcShown) hne
  unfold Within
  rw [hcKept,hcShown]
  exact ⟨⟨hmin,Int.le_refl _⟩,hmin,Int.le_refl _⟩

theorem within_of_lowered (hwithin : ∀ c∈m.m_speakerMap type,Within m.m_maximumVolumeLimit c)
    (hlower : Lowerable limit cancelled (m.m_speakerMap type))
    (hgot : (m.validateSpeakerSettingsConsistency type).1=some settings) (hlouder : settings.volume > limit)
    (hasked : after=(m.validateSpeakerSettingsConsistency type).2)
    (hset : (after.executeSetVolume type limit cancelled).1=true) :
    ∀ c∈(after.executeSetVolume type limit cancelled).2.m_speakerMap type,Within limit c := by
  obtain ⟨hshown,first,others,rest,hchannels,hfirst,hafter⟩ := validate_some hgot
  rw [←hasked] at hshown hafter
  rw [hchannels] at hlower
  obtain ⟨hmin,hlowerable⟩ := hlower
  obtain ⟨_,haccepts⟩ := hlowerable ⟨first,mem_cons_self,.inr (by omega)⟩
  have hlimit : after.m_maximumVolumeLimit=m.m_maximumVolumeLimit := hasked ▸ rfl
  have hbelow : ¬limit > after.m_maximumVolumeLimit := by
    have hfirstWithin := (hwithin first (hchannels ▸ mem_cons_self)).2.2
    omega
  have hempty : ¬(after.m_speakerMap type).isEmpty=true := by
    rw [hafter]
    exact Bool.false_ne_true
  unfold executeSetVolume at hset ⊢
  rw [if_neg hempty] at hset ⊢
  dsimp only at hset ⊢
  rw [if_neg hbelow] at hset ⊢
  split at hset
  · cases hset
  · next hsome =>
    rw [if_neg hsome]
    obtain ⟨again,hagain⟩ := ne_none_iff_exists'.mp fun hnone => hsome (isNone_iff_eq_none.mpr hnone)
    have hvalidated := executeGetSpeakerSettings_some hagain
    rw [hvalidated] at hset hagain ⊢
    obtain ⟨hshownAgain,head,_,_,hhead,hheadShown,hafterAgain⟩ := validate_some hagain
    obtain ⟨hheadEq,_⟩ := List.cons.inj (hhead.symm.trans hafter)
    obtain ⟨final,hfinal⟩ := isSome_iff_exists.mp hset
    refine lowered_of_settled hmin ?_ hafterAgain hshownAgain ?_ rfl hfinal
    · have hsame := hshown head (hhead ▸ mem_cons_self)
      omega
    · rw [acceptsWithin_getSpeakerSettings,hheadEq,acceptsWithin_getSpeakerSettings]
      exact haccepts

/-- A type has no channels, is quiet enough, is lowered, or ends the loop. -/
theorem lowerTypes_cons_cases (limit : ℤ) (cancelled : SpeakerType → ℕ → Bool) (type : SpeakerType)
    (types : List SpeakerType) (m : Manager) : (m.m_speakerMap type=[] ∧
        lowerTypes limit cancelled (type::types) m=lowerTypes limit cancelled types m) ∨
      (∃ settings next,(m.validateSpeakerSettingsConsistency type).1=some settings ∧
        lowerTypes limit cancelled (type::types) m=lowerTypes limit cancelled types next ∧
        ((settings.volume≤limit ∧ next=(m.validateSpeakerSettingsConsistency type).2) ∨ (settings.volume > limit ∧
            ((m.validateSpeakerSettingsConsistency type).2.executeSetVolume type limit (cancelled type)).1=true ∧
            next = ((m.validateSpeakerSettingsConsistency type).2.executeSetVolume type limit (cancelled type)).2))) ∨
      ((lowerTypes limit cancelled (type::types) m).1=false ∧
        Obeys type m (lowerTypes limit cancelled (type::types) m).2) := by
  rw [lowerTypes]
  split
  · next hempty => exact .inl ⟨isEmpty_iff.mp hempty,rfl⟩
  · next hempty =>
    have hvalidated : m.executeGetSpeakerSettings type=m.validateSpeakerSettingsConsistency type := if_neg hempty
    refine .inr ?_
    rw [hvalidated]
    dsimp only
    split
    · next settings hgot =>
      split
      · next hlouder =>
        split
        · next hset => exact .inl ⟨settings,_,hgot,rfl,.inr ⟨hlouder,hset,rfl⟩⟩
        · exact .inr ⟨rfl,(obeys_validate type m).trans (within_executeSetVolume _ _)⟩
      · next hquiet => exact .inl ⟨settings,_,hgot,rfl,.inl ⟨by omega,rfl⟩⟩
    · exact .inr ⟨rfl,obeys_validate type m⟩

/-- What has been done when the loop goes on obeys the old limit. -/
theorem obeys_lowered {next : Manager}
    (h : (settings.volume≤limit ∧ next=(m.validateSpeakerSettingsConsistency type).2) ∨ (settings.volume > limit ∧
        ((m.validateSpeakerSettingsConsistency type).2.executeSetVolume type limit cancelled).1=true ∧
        next=((m.validateSpeakerSettingsConsistency type).2.executeSetVolume type limit cancelled).2)) :
    Obeys type m next := by
  rcases h with ⟨_,rfl⟩|⟨_,_,rfl⟩
  · exact obeys_validate type m
  · exact (obeys_validate type m).trans (within_executeSetVolume _ _)

/-- The loop keeps the old limit and leaves the other types alone. -/
theorem lowerTypes_obeys (cancelled : SpeakerType → ℕ → Bool) (types : List SpeakerType) (hholds : LimitHolds m) :
    LimitHolds (lowerTypes limit cancelled types m).2 ∧ ∀ other,other∉types →
        (lowerTypes limit cancelled types m).2.m_speakerMap other=m.m_speakerMap other := by
  induction types generalizing m with
  | nil => exact ⟨hholds,fun _ _ => rfl⟩
  | cons type types ih =>
    rcases lowerTypes_cons_cases limit cancelled type types m with ⟨_,heq⟩|⟨_,next,_,heq,hnext⟩|⟨_,hobeys⟩
    · rw [heq]
      obtain ⟨hlimit,hothers⟩ := ih hholds
      exact ⟨hlimit,fun other hother => hothers other (not_mem_of_not_mem_cons hother)⟩
    · rw [heq]
      have hobeys := obeys_lowered hnext
      obtain ⟨hlimit,hothers⟩ := ih (limitHolds_of_obeys hobeys hholds)
      refine ⟨hlimit,fun other hother => ?_⟩
      rw [hothers other (not_mem_of_not_mem_cons hother), hobeys.others other (ne_of_not_mem_cons hother)]
    · exact ⟨limitHolds_of_obeys hobeys hholds, fun other hother => hobeys.others other (ne_of_not_mem_cons hother)⟩

variable {cancelled : SpeakerType → ℕ → Bool} {types : List SpeakerType}

theorem agreeing_of_lowerTypes (hnodup : types.Nodup) (h : (lowerTypes limit cancelled types m).1=true) :
    ∀ type∈types,m.m_speakerMap type≠[] → (commonSettings (m.m_speakerMap type)).1.isSome=true := by
  induction types generalizing m with
  | nil => exact fun type htype => absurd htype not_mem_nil
  | cons type types ih =>
    obtain ⟨hnot,hrest⟩ := nodup_cons.mp hnodup
    rcases lowerTypes_cons_cases limit cancelled type types m with
      ⟨hempty,heq⟩ | ⟨settings,next,hgot,heq,hnext⟩ | ⟨hfailed,_⟩
    · rw [heq] at h
      exact forall_mem_cons.mpr ⟨fun hne => absurd hempty hne,ih hrest h⟩
    · rw [heq] at h
      refine forall_mem_cons.mpr ⟨fun _ => isSome_iff_exists.mpr ⟨settings,hgot⟩,fun other hother => ?_⟩
      have hsame := (obeys_lowered hnext).others other fun hsame => hnot (hsame ▸ hother)
      rw [←hsame]
      exact ih hrest h other hother
    · rw [h] at hfailed
      cases hfailed

theorem within_of_lowerTypes (hnodup : types.Nodup) (hholds : LimitHolds m)
    (hlower : ∀ type∈types,Lowerable limit (cancelled type) (m.m_speakerMap type))
    (h : (lowerTypes limit cancelled types m).1=true) :
    ∀ type∈types,∀ c∈(lowerTypes limit cancelled types m).2.m_speakerMap type,Within limit c := by
  induction types generalizing m with
  | nil => exact fun type htype => absurd htype not_mem_nil
  | cons type types ih =>
    obtain ⟨hnot,hrest⟩ := nodup_cons.mp hnodup
    obtain ⟨hlowerType,hlowerTypes⟩ := forall_mem_cons.mp hlower
    rcases lowerTypes_cons_cases limit cancelled type types m with
      ⟨hempty,heq⟩ | ⟨settings,next,hgot,heq,hnext⟩ | ⟨hfailed,_⟩
    · rw [heq] at h ⊢
      refine forall_mem_cons.mpr ⟨?_,ih hrest hholds hlowerTypes h⟩
      rw [(lowerTypes_obeys cancelled types hholds).2 type hnot,hempty]
      exact fun _ hc => absurd hc not_mem_nil
    · rw [heq] at h ⊢
      have hobeys := obeys_lowered hnext
      have hnextHolds := limitHolds_of_obeys hobeys hholds
      refine forall_mem_cons.mpr ⟨?_,ih hrest hnextHolds (fun other hother => ?_) h⟩
      · rw [(lowerTypes_obeys cancelled types hnextHolds).2 type hnot]
        rcases hnext with ⟨hquiet,rfl⟩|⟨hlouder,hset,rfl⟩
        · exact within_of_quiet (hholds type) hlowerType hgot hquiet
        · exact within_of_lowered (hholds type) hlowerType hgot hlouder rfl hset
      · rw [hobeys.others other fun hsame => hnot (hsame ▸ hother)]
        exact hlowerTypes other hother
    · rw [h] at hfailed
      cases hfailed

/-- The types are those that the loop goes through. -/
theorem SpeakerType.mem_all (type : SpeakerType) :
    type∈[SpeakerType.AVS_SPEAKER_VOLUME,SpeakerType.AVS_ALERTS_VOLUME] := by
  cases type with
  | AVS_SPEAKER_VOLUME => exact mem_cons_self
  | AVS_ALERTS_VOLUME => exact mem_cons_of_mem _ mem_cons_self

theorem limitHolds_setMaximumVolumeLimit (hholds : LimitHolds m)
    (hobserved : Observed m (.setMaximumVolumeLimit limit cancelled)) :
    LimitHolds (m.setMaximumVolumeLimit limit cancelled).2 := by
  have hnodup : [SpeakerType.AVS_SPEAKER_VOLUME,SpeakerType.AVS_ALERTS_VOLUME].Nodup := by decide
  unfold setMaximumVolumeLimit
  split
  · next hbounds =>
    unfold executeSetMaximumVolumeLimit
    dsimp only
    split
    · next hlowered =>
      have hagreeing : Agreeing m := fun type => agreeing_of_lowerTypes hnodup hlowered type type.mem_all
      have hlower := hobserved hbounds hagreeing
      exact fun type => within_of_lowerTypes hnodup hholds (fun other _ => hlower other) hlowered type type.mem_all
    · exact (lowerTypes_obeys cancelled _ hholds).1
  · exact hholds

/-- A channel of a type is ducked or no longer ducked. -/
theorem obeys_modify {change : ChannelVolumeManager → ChannelVolumeManager}
    (hchange : ∀ c,Within m.m_maximumVolumeLimit c → Within m.m_maximumVolumeLimit (change c)) (index : ℕ) :
    Obeys type m (m.setSpeakers type ((m.m_speakerMap type).modify index change)) := by
  refine leads_setSpeakers fun hwithin => ?_
  generalize m.m_speakerMap type=channels at hwithin
  induction channels generalizing index with
  | nil => exact fun c hc => absurd hc (by simp)
  | cons first channels ih =>
    obtain ⟨hfirst,hrest⟩ := forall_mem_cons.mp hwithin
    cases index with
    | zero => exact forall_mem_cons.mpr ⟨hchange first hfirst,hrest⟩
    | succ index => exact forall_mem_cons.mpr ⟨hfirst,ih index hrest⟩

theorem limitHolds_insert (hholds : LimitHolds m) (hchannel : Within m.m_maximumVolumeLimit c) :
    LimitHolds (m.insert c) := by
  refine @limitHolds_of_obeys c.m_type m _ (leads_setSpeakers fun hwithin => ?_) hholds
  exact forall_mem_append.mpr ⟨hwithin,forall_mem_singleton.mpr hchannel⟩

theorem limitHolds_next (hholds : LimitHolds m) {event : Event} (hobserved : Observed m event) :
    LimitHolds (m.next event) := by
  cases event with
  | setVolume type volume cancelled =>
    refine @limitHolds_of_obeys type m _ ?_ hholds
    unfold Manager.next setVolume
    dsimp only
    split
    · exact within_executeSetVolume volume cancelled
    · exact refl
  | adjustVolume type delta cancelled =>
    refine @limitHolds_of_obeys type m _ ?_ hholds
    unfold Manager.next adjustVolume
    dsimp only
    split
    · exact within_executeAdjustVolume delta cancelled
    · exact refl
  | setMute type mute cancelled => exact limitHolds_of_obeys (obeys_executeSetMute mute cancelled) hholds
  | setMaximumVolumeLimit => exact limitHolds_setMaximumVolumeLimit hholds hobserved
  | getSpeakerSettings =>
    exact limitHolds_of_obeys (leads_executeGetSpeakerSettings fun _ => within_getSpeakerSettings) hholds
  | addChannelVolumeInterface => exact limitHolds_insert hholds hobserved
  | handleDirective directive muteCancelled volumeCancelled =>
    exact limitHolds_of_obeys (obeys_handleDirective directive muteCancelled volumeCancelled) hholds
  | startDucking type index => exact limitHolds_of_obeys (obeys_modify (fun _ => within_startDucking) index) hholds
  | stopDucking type index => exact limitHolds_of_obeys (obeys_modify (fun _ => within_stopDucking) index) hholds

theorem limitHolds_construct (minUnmuteVolume : ℤ) (hchannels : ∀ c∈channels,Within AVS_SET_VOLUME_MAX c) :
    LimitHolds (construct channels minUnmuteVolume) := by
  have hinserted : ∀ m : Manager,LimitHolds m → m.m_maximumVolumeLimit=AVS_SET_VOLUME_MAX →
      LimitHolds (channels.foldl insert m) := by
    induction channels with
    | nil => exact fun m hholds _ => hholds
    | cons first channels ih =>
      intro m hholds hlimit
      obtain ⟨hfirst,hrest⟩ := forall_mem_cons.mp hchannels
      exact ih hrest (m.insert first) (limitHolds_insert hholds (hlimit ▸ hfirst)) hlimit
  have hholds := hinserted ⟨fun _ => [],AVS_SET_VOLUME_MAX,minUnmuteVolume⟩ (fun _ _ hc => absurd hc not_mem_nil) rfl
  unfold construct
  dsimp only
  split
  · exact hholds
  · exact limitHolds_of_obeys (obeys_validate _ _) hholds

/-- In every run in which channels join with volumes within the limit, and the limit is only set where it is
possible, all unducked volumes are within the limit after every task. -/
theorem unducked_volumes_within_limit {channels : List ChannelVolumeManager} {minUnmuteVolume : ℤ}
    (hchannels : ∀ c∈channels,Within AVS_SET_VOLUME_MAX c) {trace : List Event} {m : Manager}
    (run : Run (Guarded Step Observed) (construct channels minUnmuteVolume) trace m) : LimitHolds m := by
  refine Run.invariant LimitHolds run (limitHolds_construct minUnmuteVolume hchannels) ?_
  rintro s event _ hholds ⟨hobserved,rfl⟩
  exact limitHolds_next hholds hobserved

/-- A speaker with a volume of its own, and its answers to come. -/
def channelAt (volume : ℤ) (willing : List Bool) : ChannelVolumeManager :=
  ⟨⟨⟨volume,false⟩,willing,[]⟩,false,volume,.AVS_SPEAKER_VOLUME,defaultVolumeAttenuateFunction⟩

/-- No wait is cancelled. -/
def patient : SpeakerType → ℕ → Bool := fun _ _ => false

/-- A manager with one speaker at 80 that refuses twice. -/
def reluctant : Manager := construct [channelAt 80 [false,false]] 10

/-- It is lowered in the third round, and a second speaker joins. -/
theorem unducked_volumes_within_limit_reluctant : LimitHolds (((reluctant.next (.setMaximumVolumeLimit 50 patient)).next
      (.addChannelVolumeInterface (channelAt 50 []))).next (.setVolume .AVS_SPEAKER_VOLUME 90 fun _ => false)) := by
  have hlower : Observed reluctant (.setMaximumVolumeLimit 50 patient) := by
    intro _ _ type
    cases type with
    | AVS_SPEAKER_VOLUME => exact ⟨by decide,fun _ => ⟨by decide,by decide⟩⟩
    | AVS_ALERTS_VOLUME => trivial
  have hjoin : Observed (reluctant.next (.setMaximumVolumeLimit 50 patient))
      (.addChannelVolumeInterface (channelAt 50 [])) := by
    show Within _ _
    decide
  have hrun : Run (Guarded Step Observed) reluctant
      ([]++[.setMaximumVolumeLimit 50 patient]++[.addChannelVolumeInterface (channelAt 50 [])] ++
        [.setVolume .AVS_SPEAKER_VOLUME 90 fun _ => false]) _ :=
    ((Run.refl.snoc ⟨hlower,rfl⟩).snoc ⟨hjoin,rfl⟩).snoc ⟨trivial,rfl⟩
  exact unducked_volumes_within_limit (by decide) hrun

/-- Not where a speaker refuses a new limit, where a limit is below the least volume, or where a loud speaker joins. -/
theorem unducked_volume_above_limit : let refusing := construct [channelAt 80 [false,false,false]] 10
    let quiet := construct [channelAt 30 []] 10
    ((refusing.setMaximumVolumeLimit 50 patient).1=true ∧
        ¬LimitHolds (refusing.next (.setMaximumVolumeLimit 50 patient))) ∧
      ((quiet.setMaximumVolumeLimit (-1) patient).1=true ∧
        ¬LimitHolds (quiet.next (.setMaximumVolumeLimit (-1) patient))) ∧
      ¬LimitHolds ((quiet.next (.setMaximumVolumeLimit 50 patient)).next
        (.addChannelVolumeInterface (channelAt 80 []))) := by
  have hloud (m : Manager) (h : ∃ c∈m.m_speakerMap .AVS_SPEAKER_VOLUME,¬Within m.m_maximumVolumeLimit c) :
      ¬LimitHolds m := fun hholds => by
    obtain ⟨c,hc,hnot⟩ := h
    exact hnot (hholds .AVS_SPEAKER_VOLUME c hc)
  refine ⟨⟨by decide,hloud _ (by decide)⟩,⟨by decide,hloud _ (by decide)⟩,hloud _ (by decide)⟩

end AlexaClientSDK.SpeakerManager
