import AlexaClientSDK.VolumeLimits

/-!
# The volumes of a channel, and of channels that disagree

`setUnduckedVolume` keeps a volume before it asks the speaker, so that one that the speaker refused comes up after the
channel was ducked. `executeSetVolume` asks the speakers for their settings first, and refuses where they differ;
`executeSetMute` goes on.
-/

namespace AlexaClientSDK.SpeakerManager

open Option List LabelledRuns RetryRounds ChannelVolumeManager Manager

namespace ChannelVolumeManager

variable {c : ChannelVolumeManager}

inductive Call
  | startDucking
  | stopDucking
  | setUnduckedVolume (volume : ℤ)

section

variable (c)

def call : Call → Bool × ChannelVolumeManager
  | .startDucking => c.startDucking
  | .stopDucking => c.stopDucking
  | .setUnduckedVolume volume => c.setUnduckedVolume volume

/-- The volume that was accepted last, or the first one of the speaker. -/
structure Volumes where
  channel : ChannelVolumeManager
  accepted : ℤ

def acceptedAfter (accepted : ℤ) : Call → Bool → ℤ
  | .setUnduckedVolume volume,true => volume
  | _,_ => accepted

def Step (v : Volumes) (call : Call) (w : Volumes) : Prop :=
  w=⟨(v.channel.call call).2,acceptedAfter v.accepted call (v.channel.call call).1⟩

/-- The volume that is reported once the ducking of a channel has ended. -/
def volumeToCome : ℤ := c.m_unduckedVolume

end

section

variable (c)

/-- It changes neither the flag nor the volume that is reported. -/
def KeepsOnFailure (call : Call) : Prop :=
  (c.call call).1=false → (c.call call).2.m_isDucked=c.m_isDucked ∧ (c.call call).2.shownVolume=c.shownVolume ∧
    (c.call call).2.volumeToCome=c.volumeToCome

def PlaysAccepted (v : Volumes) : Prop :=
  v.channel.m_isDucked=false → v.channel.m_speaker.settings.volume=v.accepted

/-- Without ducking it is given its volume, or one that is accepted. -/
def Heeded : Call → Prop
  | .setUnduckedVolume volume => withinBounds volume AVS_SET_VOLUME_MIN AVS_SET_VOLUME_MAX=true →
      c.m_isDucked=false → volume=c.m_unduckedVolume ∨ c.m_speaker.willing.headD true=true
  | .startDucking | .stopDucking => True

end

/-- The kept volume was accepted, and is played without ducking. -/
structure Inv (v : Volumes) : Prop where
  kept : v.channel.m_unduckedVolume=v.accepted
  plays : PlaysAccepted v

theorem step_setUnduckedVolume {v : Volumes} (h : Inv v) {volume : ℤ}
    (hheeded : Heeded v.channel (.setUnduckedVolume volume)) :
    KeepsOnFailure v.channel (.setUnduckedVolume volume) ∧ Inv ⟨(v.channel.setUnduckedVolume volume).2,
        acceptedAfter v.accepted (.setUnduckedVolume volume) (v.channel.setUnduckedVolume volume).1⟩ := by
  unfold KeepsOnFailure call setUnduckedVolume
  dsimp only
  cases hbounds : withinBounds volume AVS_SET_VOLUME_MIN AVS_SET_VOLUME_MAX with
  | false => exact ⟨fun _ => ⟨rfl,rfl,rfl⟩,h⟩
  | true =>
    cases hducked : v.channel.m_isDucked with
    | true => exact ⟨fun hfailed => (nomatch hfailed),rfl,fun hnot => absurd (show true=false from hnot) (by decide)⟩
    | false =>
      unfold Speaker.setVolume Speaker.change
      cases hwilling : v.channel.m_speaker.willing.headD true with
      | true => exact ⟨fun hfailed => (nomatch hfailed),rfl,fun _ => rfl⟩
      | false =>
        -- refused, so it is the volume that the channel keeps already
        have hsame : volume=v.channel.m_unduckedVolume :=
          (hheeded hbounds hducked).resolve_right fun hwould => (nomatch hwilling.symm.trans hwould)
        refine ⟨fun _ => ⟨rfl,?_,hsame⟩,hsame.trans h.kept,fun _ => h.plays hducked⟩
        simp [shownVolume,hducked]

/-- A failed ducking leaves the speaker where it was. -/
theorem inv_step {v w : Volumes} (h : Inv v) {call : Call} (hheeded : Heeded v.channel call) (hstep : Step v call w) :
    KeepsOnFailure v.channel call ∧ Inv w := by
  cases hstep
  cases call with
  | setUnduckedVolume => exact step_setUnduckedVolume h hheeded
  | startDucking =>
    unfold KeepsOnFailure call startDucking
    cases hducked : v.channel.m_isDucked with
    | true => exact ⟨fun hfailed => (nomatch hfailed),h⟩
    | false =>
      unfold Speaker.setVolume Speaker.change
      cases v.channel.m_speaker.willing.headD true with
      | true => exact ⟨fun hfailed => (nomatch hfailed),h.kept,fun hnot => (nomatch hnot)⟩
      | false => exact ⟨fun _ => ⟨rfl,by simp [shownVolume,hducked],rfl⟩,h.kept,fun _ => h.plays hducked⟩
  | stopDucking =>
    unfold KeepsOnFailure call stopDucking
    cases hducked : v.channel.m_isDucked with
    | false => exact ⟨fun hfailed => (nomatch hfailed),h⟩
    | true =>
      unfold Speaker.setVolume Speaker.change
      cases v.channel.m_speaker.willing.headD true with
      | true => exact ⟨fun hfailed => (nomatch hfailed),h.kept,fun _ => h.kept⟩
      | false => exact ⟨fun _ => ⟨rfl,by simp [shownVolume,hducked],rfl⟩,h.kept,fun hnot => (nomatch hnot)⟩

variable {speaker : Speaker} {type : SpeakerType} {volumeCurve : Option (ℤ → ℤ)}

theorem inv_create (h : create speaker type volumeCurve=some c) : Inv ⟨c,speaker.settings.volume⟩ := by
  obtain ⟨settings,hsettings,rfl⟩ := map_eq_some_iff.mp h
  exact ⟨volume_of_getSpeakerSettings hsettings,fun _ => rfl⟩

/-- Where no channel that is not ducked is given a volume that its speaker refuses, calls that fail change
nothing that is reported, and a channel that is not ducked plays at the volume accepted last. -/
theorem ducking_keeps_volume (hcreate : create speaker type volumeCurve=some c) {trace : List Call} {v : Volumes}
    (run : Run (Guarded Step fun v => Heeded v.channel) ⟨c,speaker.settings.volume⟩ trace v) :
    PlaysAccepted v ∧ ∀ call,Heeded v.channel call → KeepsOnFailure v.channel call := by
  have hinv : Inv v :=
    Run.invariant Inv run (inv_create hcreate) fun _ _ _ h hstep => (inv_step h hstep.1 hstep.2).2
  exact ⟨hinv.plays,fun _ hheeded => (inv_step hinv hheeded rfl).1⟩

/-- The answers of a speaker at 50. -/
def speakerAt50 (willing : List Bool) : Speaker := ⟨⟨50,false⟩,willing,[]⟩

/-- A channel whose speaker plays at 50. -/
def channelAt50 (willing : List Bool) : ChannelVolumeManager :=
  ⟨speakerAt50 willing,false,50,.AVS_SPEAKER_VOLUME,defaultVolumeAttenuateFunction⟩

/-- A volume is set while the channel is ducked. -/
theorem ducking_keeps_volume_ducked :
    (((channelAt50 []).call .startDucking).2.call (.setUnduckedVolume 70)).2.volumeToCome=70 ∧
      PlaysAccepted ⟨((((channelAt50 []).call .startDucking).2.call (.setUnduckedVolume 70)).2.call .stopDucking).2,70⟩ := by
  have hstep (v : Volumes) (call : Call) (hheeded : Heeded v.channel call) :
      Guarded Step (fun v => Heeded v.channel) v call
        ⟨(v.channel.call call).2,acceptedAfter v.accepted call (v.channel.call call).1⟩ := ⟨hheeded,rfl⟩
  have hrun := ((Run.refl.snoc (hstep ⟨channelAt50 [],50⟩ .startDucking trivial)).snoc
    (hstep _ (.setUnduckedVolume 70) fun _ _ => .inr rfl)).snoc (hstep _ .stopDucking trivial)
  have hcreate : create (speakerAt50 []) .AVS_SPEAKER_VOLUME none=some (channelAt50 []) := rfl
  exact ⟨rfl,(ducking_keeps_volume hcreate hrun).1⟩

/-- A refused volume is played after the channel was ducked. -/
theorem refused_volume_comes_up : ((channelAt50 [false]).setUnduckedVolume 70).1=false ∧
      ¬KeepsOnFailure (channelAt50 [false]) (.setUnduckedVolume 70) ∧
      ((((channelAt50 [false]).setUnduckedVolume 70).2.startDucking.2.stopDucking).2).m_speaker.settings.volume=70 := by
  refine ⟨rfl,fun h => ?_,rfl⟩
  have hkept := (h rfl).2.2
  revert hkept
  decide

end ChannelVolumeManager

variable {c : ChannelVolumeManager} {channels : List ChannelVolumeManager} {settings next : SpeakerSettings}

section

variable (c)

/-- The settings that a channel gives. -/
def ChannelVolumeManager.shown : SpeakerSettings := ⟨c.shownVolume,c.m_speaker.settings.mute⟩

/-- The speaker accepts all it is asked for, and gives its settings. -/
def Willing : Prop :=
  (∀ answer∈c.m_speaker.willing,answer=true) ∧ ∀ answer∈c.m_speaker.answering,answer=true

end

instance (c : ChannelVolumeManager) : Decidable (Willing c) := inferInstanceAs (Decidable (_ ∧ _))

theorem headD_true {answers : List Bool} (h : ∀ answer∈answers,answer=true) :
    answers.headD true=true ∧ ∀ answer∈answers.tail,answer=true := by
  cases answers with
  | nil => exact ⟨rfl,h⟩
  | cons => exact forall_mem_cons.mp h

theorem getSpeakerSettings_of_willing (h : Willing c) :
    c.getSpeakerSettings.1=some c.shown ∧ Willing c.getSpeakerSettings.2 ∧ c.getSpeakerSettings.2.shown=c.shown := by
  obtain ⟨hanswer,hrest⟩ := headD_true h.2
  refine ⟨?_,⟨h.1,hrest⟩,rfl⟩
  unfold getSpeakerSettings Speaker.getSpeakerSettings shown shownVolume
  rw [hanswer]
  cases c.m_isDucked <;> rfl

theorem setUnduckedVolume_of_willing (h : Willing c) {volume : ℤ}
    (hbounds : withinBounds volume AVS_SET_VOLUME_MIN AVS_SET_VOLUME_MAX=true) :
    (c.setUnduckedVolume volume).1=true ∧ Willing (c.setUnduckedVolume volume).2 ∧
      (c.setUnduckedVolume volume).2.shown=⟨volume,c.shown.mute⟩ := by
  obtain ⟨hanswer,hrest⟩ := headD_true h.1
  unfold setUnduckedVolume shown shownVolume
  rw [hbounds]
  cases hducked : c.m_isDucked with
  | true => exact ⟨rfl,h,by simp⟩
  | false =>
    unfold Speaker.setVolume Speaker.change
    rw [hanswer]
    exact ⟨rfl,⟨hrest,h.2⟩,by simp⟩

theorem setMute_of_willing (h : Willing c) (mute : Bool) :
    (c.setMute mute).1=true ∧ Willing (c.setMute mute).2 ∧ (c.setMute mute).2.shown=⟨c.shown.volume,mute⟩ := by
  obtain ⟨hanswer,hrest⟩ := headD_true h.1
  unfold setMute Speaker.setMute Speaker.change
  rw [hanswer]
  exact ⟨rfl,⟨hrest,h.2⟩,rfl⟩

/-- There are channels; they are willing and show the same settings. -/
def Settled (settings : SpeakerSettings) (channels : List ChannelVolumeManager) : Prop :=
  channels≠[] ∧ ∀ c∈channels,Willing c ∧ c.shown=settings

/-- A round that every channel accepts goes through. -/
theorem settled_askAll {ask : ChannelVolumeManager → Bool × ChannelVolumeManager} (hsettled : Settled settings channels)
    (h : ∀ c,Willing c → c.shown=settings → (ask c).1=true ∧ Willing (ask c).2 ∧ (ask c).2.shown=next) :
    (askAll ask channels).1=true ∧ Settled next (askAll ask channels).2 := by
  obtain ⟨hne,hall⟩ := hsettled
  have hgood : (askAll ask channels).1=true ∧ ∀ c∈(askAll ask channels).2,Willing c ∧ c.shown=next := by
    clear hne
    induction channels with
    | nil => exact ⟨rfl,fun _ hc => absurd hc not_mem_nil⟩
    | cons first others ih =>
      obtain ⟨hfirst,hothers⟩ := forall_mem_cons.mp hall
      obtain ⟨haccepted,hnext⟩ := h first hfirst.1 hfirst.2
      unfold askAll
      rw [if_pos haccepted]
      exact ⟨(ih hothers).1,forall_mem_cons.mpr ⟨hnext,(ih hothers).2⟩⟩
  refine ⟨hgood.1,?_,hgood.2⟩
  obtain ⟨first,others,rfl⟩ := exists_cons_of_ne_nil hne
  obtain ⟨rest,hrest,_⟩ := askAll_cons ask first others
  rw [hrest]
  exact cons_ne_nil _ _

theorem settled_commonSettings (h : Settled settings channels) :
    (commonSettings channels).1=some settings ∧ Settled settings (commonSettings channels).2 := by
  obtain ⟨hne,hall⟩ := h
  obtain ⟨first,others,rfl⟩ := exists_cons_of_ne_nil hne
  obtain ⟨⟨hwilling,rfl⟩,hothers⟩ := forall_mem_cons.mp hall
  obtain ⟨hgot,hfirst⟩ := getSpeakerSettings_of_willing hwilling
  rw [commonSettings_some hgot]
  cases others with
  | nil => exact ⟨rfl,cons_ne_nil _ _,forall_mem_cons.mpr ⟨hfirst,hothers⟩⟩
  | cons second others =>
    obtain ⟨hall,hasked⟩ := @settled_askAll _ first.shown first.shown (sameSettings first.shown)
      ⟨cons_ne_nil second others,hothers⟩ fun c hc hsame =>
        ⟨decide_eq_true (hsame ▸ (getSpeakerSettings_of_willing hc).1),hsame ▸ (getSpeakerSettings_of_willing hc).2⟩
    rw [if_pos hall]
    exact ⟨rfl,cons_ne_nil _ _,forall_mem_cons.mpr ⟨hfirst,hasked.2⟩⟩

theorem shown_of_commonSettings (h : (commonSettings channels).1=some settings) : ∀ c∈channels,c.shown=settings := by
  have hshown {c : ChannelVolumeManager} {settings : SpeakerSettings} (hc : c.getSpeakerSettings.1=some settings) :
      c.shown=settings := by
    have hvolume := volume_of_getSpeakerSettings hc
    unfold getSpeakerSettings Speaker.getSpeakerSettings at hc
    unfold shown
    rw [←hvolume]
    obtain ⟨own,hown,rfl⟩ := map_eq_some_iff.mp hc
    split at hown
    · obtain rfl := some.inj hown
      split <;> rfl
    · cases hown
  cases channels with
  | nil => cases h
  | cons first =>
    cases hfirst : first.getSpeakerSettings.1 with
    | none =>
      rw [commonSettings_none hfirst] at h
      cases h
    | some =>
      rw [commonSettings_some hfirst] at h
      split at h
      · next hall =>
        rw [←some.inj h]
        exact forall_mem_cons.mpr ⟨hshown hfirst,fun c hc => hshown (of_decide_eq_true (askAll_accepted hall c hc))⟩
      · cases h

variable {m : Manager} {type : SpeakerType}

theorem settled_validate (h : Settled settings (m.m_speakerMap type)) :
    (m.validateSpeakerSettingsConsistency type).1=some settings ∧
      Settled settings ((m.validateSpeakerSettingsConsistency type).2.m_speakerMap type) := by
  have hspeakers : (m.validateSpeakerSettingsConsistency type).2.m_speakerMap type =
      (commonSettings (m.m_speakerMap type)).2 := if_pos rfl
  rw [hspeakers]
  exact settled_commonSettings h

theorem isEmpty_of_settled (h : Settled settings channels) : ¬channels.isEmpty=true :=
  fun hempty => h.1 (isEmpty_iff.mp hempty)

/-- Where all accept, the first round does, and the channels agree. -/
theorem settled_apply (hsettled : Settled settings (m.m_speakerMap type))
    {task : ChannelVolumeManager → Bool × ChannelVolumeManager}
    (h : ∀ c,Willing c → c.shown=settings → (task c).1=true ∧ Willing (task c).2 ∧ (task c).2.shown=next)
    (cancelled : ℕ → Bool) : Settled next ((m.retryAndApplySettings type task cancelled).m_speakerMap type) := by
  obtain ⟨hall,hasked⟩ := settled_askAll hsettled h
  have hspeakers : (m.retryAndApplySettings type task cancelled).m_speakerMap type =
      retry (askAll task) cancelled 3 0 (m.m_speakerMap type) := if_pos rfl
  rw [hspeakers,retry,if_pos hall]
  exact hasked

variable {volume : ℤ} {mute : Bool} {cancelled muteCancelled : ℕ → Bool}

/-- What the limit leaves of a volume. -/
def Manager.limited (m : Manager) (volume : ℤ) : ℤ :=
  if volume > m.m_maximumVolumeLimit then m.m_maximumVolumeLimit else volume

theorem settled_executeSetVolume (h : Settled settings (m.m_speakerMap type))
    (hbounds : withinBounds (m.limited volume) AVS_SET_VOLUME_MIN AVS_SET_VOLUME_MAX=true) :
    (m.executeSetVolume type volume cancelled).1=true ∧
      Settled ⟨m.limited volume,settings.mute⟩ ((m.executeSetVolume type volume cancelled).2.m_speakerMap type) := by
  obtain ⟨hgot,hvalidated⟩ := settled_validate h
  unfold executeSetVolume executeGetSpeakerSettings
  rw [if_neg (isEmpty_of_settled h),if_neg (isEmpty_of_settled h)]
  dsimp only
  rw [hgot,if_neg (by simp)]
  have happlied := settled_apply hvalidated
    (fun c hc hsame => hsame ▸ setUnduckedVolume_of_willing hc hbounds) cancelled
  have hsettled := settled_validate happlied
  exact ⟨isSome_of_eq_some hsettled.1,hsettled.2⟩

theorem settled_executeSetMute (h : Settled settings (m.m_speakerMap type)) :
    (m.executeSetMute type mute muteCancelled).1=true ∧
      Settled ⟨settings.volume,mute⟩ ((m.executeSetMute type mute muteCancelled).2.m_speakerMap type) := by
  have happly (m : Manager) (h : Settled settings (m.m_speakerMap type)) :=
    settled_validate (settled_apply h (fun c hc hsame => hsame ▸ setMute_of_willing hc mute) muteCancelled)
  obtain ⟨hgot,hvalidated⟩ := settled_validate h
  unfold executeSetMute
  cases mute with
  | true =>
    simp only [Bool.not_true,Bool.false_eq_true,if_false,any_none]
    rw [if_neg (isEmpty_of_settled h)]
    exact ⟨isSome_of_eq_some (happly m h).1,(happly m h).2⟩
  | false =>
    simp only [Bool.not_false,if_true]
    rw [hgot]
    obtain ⟨volume,_|_⟩ := settings
    · exact ⟨rfl,hvalidated⟩
    · rw [if_neg (isEmpty_of_settled hvalidated)]
      exact ⟨isSome_of_eq_some (happly _ hvalidated).1,(happly _ hvalidated).2⟩

/-- Both requests are met, and the channels show what was asked for. -/
def Recovers (m : Manager) (type : SpeakerType) (volume : ℤ) (mute : Bool) (cancelled muteCancelled : ℕ → Bool) : Prop :=
  let volumeSet := m.executeSetVolume type volume cancelled
  let muteSet := volumeSet.2.executeSetMute type mute muteCancelled
  volumeSet.1=true ∧ muteSet.1=true ∧ ∀ c∈muteSet.2.m_speakerMap type,c.shown=⟨m.limited volume,mute⟩

/-- Channels that accept all they are asked for get a volume and a mute state if and only if they agreed before. -/
theorem recovers_iff (hchannels : m.m_speakerMap type≠[]) (hwilling : ∀ c∈m.m_speakerMap type,Willing c)
    (hbounds : withinBounds (m.limited volume) AVS_SET_VOLUME_MIN AVS_SET_VOLUME_MAX=true) :
    Recovers m type volume mute cancelled muteCancelled ↔
      ∀ c∈m.m_speakerMap type,∀ d∈m.m_speakerMap type,c.shown=d.shown := by
  constructor
  · rintro ⟨hset,_,_⟩ c hc d hd
    unfold executeSetVolume executeGetSpeakerSettings at hset
    cases hgot : (m.validateSpeakerSettingsConsistency type).1 with
    | none => simp [hgot,hchannels] at hset
    | some => rw [shown_of_commonSettings hgot c hc,shown_of_commonSettings hgot d hd]
  · intro hagree
    obtain ⟨first,others,hfirst⟩ := exists_cons_of_ne_nil hchannels
    have hmem : first∈m.m_speakerMap type := hfirst ▸ mem_cons_self
    have hsettled : Settled first.shown (m.m_speakerMap type) :=
      ⟨hchannels,fun c hc => ⟨hwilling c hc,hagree c hc first hmem⟩⟩
    obtain ⟨hset,hvolume⟩ := @settled_executeSetVolume _ m type volume cancelled hsettled hbounds
    obtain ⟨hmuted,hmute⟩ := @settled_executeSetMute _ _ type mute muteCancelled hvolume
    exact ⟨hset,hmuted,fun c hc => (hmute.2 c hc).2⟩

/-- Two speakers of a type, at one volume or two. -/
def pairAt (first second : ℤ) : Manager := construct [channelAt first [],channelAt second []] 10

/-- From 80 to the limit. -/
theorem recovers_iff_pair : Recovers (pairAt 80 80) .AVS_SPEAKER_VOLUME 100 true (fun _ => false) (fun _ => false) :=
  (recovers_iff (by decide) (by decide) (by decide)).mpr (by decide)

/-- Left at 20 and 50, they refuse every volume although they accept it. -/
theorem speakers_stay_apart : ¬Recovers (pairAt 20 50) .AVS_SPEAKER_VOLUME 30 false (fun _ => false) (fun _ => false) :=
  fun h => Bool.false_ne_true h.1

end AlexaClientSDK.SpeakerManager
