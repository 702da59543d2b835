import AlexaClientSDK.MediaPlayerAccounting

/-!
# The audio player and its channel

An audio player with the channel in the foreground plays, or it waits for something: a report that the current source
has started or stopped, or the task after a finished track. The exits of `playNextItem` that find no player or cannot
set its source do neither, and neither does a player that is given the channel with nothing left to play.
-/

namespace AlexaClientSDK.AudioPlayerChannel

open Option List
open LabelledRuns FocusChannel PooledMediaPlayerFactory AudioPlayer Player MediaPlayerAccounting

variable {π : Type}

/-- Something is still to come that starts a track or takes the channel back. -/
def Owing (s : Player π) : Prop :=
  .release∈s.requests ∨ 0<s.finishing ∨ ∃ id reply,s.currentlyPlaying.sourceId=some id ∧ (id,reply)∈s.awaited

/-- The items that have a player have a source. -/
def Sourced (items : List (Item π)) : Prop :=
  ∀ item∈items,item.mediaPlayer.isSome=true → item.sourceId.isSome=true

/-- What is known between two tasks. -/
structure Inv (s : Player π) : Prop where
  current : Sourced [s.currentlyPlaying]
  queue : Sourced s.audioPlayQueue
  /-- A track that was started and has not ended has a source. -/
  active : s.currentActivity.active=true → s.currentlyPlaying.sourceId.isSome=true
  attended : s.focus=.foreground → s.currentActivity.active=false → Owing s

variable {s t : Player π} {item : Item π} {items : List (Item π)}

structure Mild (s t : Player π) : Prop where
  player : t.currentlyPlaying.mediaPlayer=s.currentlyPlaying.mediaPlayer
  source : t.currentlyPlaying.sourceId=s.currentlyPlaying.sourceId
  queue : Sourced s.audioPlayQueue → Sourced t.audioPlayQueue
  activity : t.currentActivity=s.currentActivity
  focus : t.focus=s.focus
  finishing : t.finishing=s.finishing
  requests : ∀ r∈s.requests,r∈t.requests
  awaited : ∀ owed∈s.awaited,owed∈t.awaited

open Mild

def view (s : Player π) :=
  (s.currentlyPlaying,s.audioPlayQueue,s.currentActivity,s.focus,s.finishing,s.requests,s.awaited)

theorem Mild.of_eq (h : view t=view s) : Mild s t := by
  unfold view at h
  simp only [Prod.mk.injEq] at h
  obtain ⟨hcurrent,hqueue,hactivity,hfocus,hfinishing,hrequests,hawaited⟩ := h
  constructor
  · rw [hcurrent]
  · rw [hcurrent]
  · rw [hqueue]
    exact fun hs => hs
  · exact hactivity
  · exact hfocus
  · exact hfinishing
  · rw [hrequests]
    exact fun _ hr => hr
  · rw [hawaited]
    exact fun _ howed => howed

theorem Mild.refl (s : Player π) : Mild s s := .of_eq rfl

theorem Mild.trans {u : Player π} (h : Mild s t) (h' : Mild t u) : Mild s u where
  player := h'.player.trans h.player
  source := h'.source.trans h.source
  queue := fun hs => h'.queue (h.queue hs)
  activity := h'.activity.trans h.activity
  focus := h'.focus.trans h.focus
  finishing := h'.finishing.trans h.finishing
  requests := fun r hr => h'.requests r (h.requests r hr)
  awaited := fun owed howed => h'.awaited owed (h.awaited owed howed)

theorem Owing.mild (h : Owing s) (hmild : Mild s t) : Owing t := by
  obtain hrelease|hfinishing|⟨id,reply,hid,howed⟩ := h
  · exact .inl (hmild.requests _ hrelease)
  · rw [←hmild.finishing] at hfinishing
    exact .inr (.inl hfinishing)
  · rw [←hmild.source] at hid
    exact .inr (.inr ⟨id,reply,hid,hmild.awaited _ howed⟩)

theorem Inv.mild (h : Inv s) (hmild : Mild s t) : Inv t where
  current := by
    intro item hitem
    rw [mem_singleton] at hitem
    rw [hitem,hmild.player,hmild.source]
    exact h.current _ mem_cons_self
  queue := hmild.queue h.queue
  active := by
    rw [hmild.activity,hmild.source]
    exact h.active
  attended := by
    rw [hmild.focus,hmild.activity]
    exact fun hfocus hactive => (h.attended hfocus hactive).mild hmild

section

variable (s)

theorem mild_await (id : Option SourceId) (reply : Reply) : Mild s (s.await id reply) := by
  have hgrown : ∀ owed∈s.awaited,owed∈(s.await id reply).awaited := by
    intro owed howed
    cases id with
    | none => exact howed
    | some => exact mem_append_left _ howed
  rw [await_eq] at hgrown ⊢
  exact ⟨rfl,rfl,fun h => h,rfl,rfl,rfl,fun _ h => h,hgrown⟩

theorem mild_request (r : ChannelRequest) : Mild s (s.request r) :=
  ⟨rfl,rfl,id,rfl,rfl,rfl,fun _ h => mem_append_left _ h,fun _ h => h⟩

theorem mild_send (message : Message) : Mild s (s.send message) :=
  .of_eq rfl

theorem mild_executeStop (playNextItem : Bool) (a : Answers) : Mild s (s.executeStop playNextItem a) := by
  have hgrown : ∀ owed∈s.awaited,owed∈(s.executeStop playNextItem a).awaited := by
    intro owed howed
    unfold executeStop
    split
    · dsimp only
      split
      · split
        · exact (mild_await _ _ _).awaited owed howed
        · exact howed
      · exact howed
    · exact howed
  rw [executeStop_eq] at hgrown ⊢
  exact ⟨rfl,rfl,id,rfl,rfl,rfl,fun _ h => h,hgrown⟩

theorem mild_executePlay (messageId : String) (a : Answers) : Mild s (s.executePlay messageId a) := by
  unfold executePlay
  split
  · exact refl s
  · next playItem _ _ =>
    split
    · exact refl s
    · have hstop : Mild s (if playItem.playBehavior=.replaceAll then s.executeStop true a else s) := by
        split
        · exact mild_executeStop s true a
        · exact refl s
      refine hstop.trans ?_
      generalize (if playItem.playBehavior=.replaceAll then s.executeStop true a else s)=u
      have hmixability : ∀ content,Mild u {u with currentMixability := content} := fun _ => .of_eq rfl
      have hpending : Mild u {u with isAcquireChannelRequestPending := true} :=
        .of_eq rfl
      dsimp only
      split
      case h_4 =>
        split
        · exact hpending.trans (mild_request _ _)
        · exact refl u
      case h_5 => exact refl u
      case h_6 => exact refl u
      all_goals
        split
        · split
          · exact refl u
          · split
            · exact (hmixability _).trans (mild_request _ _)
            · exact mild_send _ _
        · exact refl u

theorem mild_executeLocalOperation (op : PlaybackOperation) (a : Answers) : Mild s (s.executeLocalOperation op a) := by
  have hpending : ∀ p,Mild s {s with isAcquireChannelRequestPending := p,isLocalResumePending := true} :=
    fun _ => .of_eq rfl
  have hstop : ∀ called,Mild s {s with isStopCalled := called} :=
    fun _ => .of_eq rfl
  unfold executeLocalOperation
  split
  · split
    case h_1 =>
      split
      · split
        · split
          · exact hpending _
          · split
            · exact (hpending true).trans (mild_request _ _)
            · exact mild_send _ _
        · split
          · exact mild_await _ _ _
          · exact refl s
      · exact refl s
    case h_2 => exact refl s
    case h_3 => exact refl s
    all_goals
      split
      · split
        · exact (hstop _).trans (mild_await _ _ _)
        · exact hstop _
      · exact refl s
  · exact refl s

end

theorem sourced_cons : Sourced (item::items) ↔ Sourced [item] ∧ Sourced items := by
  unfold Sourced
  rw [forall_mem_cons,forall_mem_singleton]

theorem sourced_append {items' : List (Item π)} : Sourced (items++items') ↔ Sourced items ∧ Sourced items' :=
  forall_mem_append

theorem sourced_of_none (hplayer : item.mediaPlayer=none) : Sourced [item] := by
  intro other hother hsome
  rw [mem_singleton.mp hother,hplayer] at hsome
  cases hsome

theorem Sourced.congr {item' : Item π} (h : Sourced [item])
    (hplayer : item'.mediaPlayer=item.mediaPlayer) (hsource : item'.sourceId=item.sourceId) : Sourced [item'] := by
  intro other hother
  rw [mem_singleton.mp hother,hplayer,hsource]
  exact h item mem_cons_self

theorem Sourced.replaceF {change : Item π → Option (Item π)}
    (hchange : ∀ item item',change item=some item' → Sourced [item] → Sourced [item'])
    (h : Sourced items) : Sourced (items.replaceF change) := by
  induction items with
  | nil => exact h
  | cons item items ih =>
    obtain ⟨hitem,hitems⟩ := sourced_cons.mp h
    rw [List.replaceF]
    cases hto : change item with
    | none => exact sourced_cons.mpr ⟨hitem,ih hitems⟩
    | some item' => exact sourced_cons.mpr ⟨hchange item item' hto hitem,hitems⟩

theorem sourced_configureMediaPlayer (setSource : Option SourceId) (h : Sourced [item]) :
    Sourced [(s.configureMediaPlayer item setSource).2.2] := by
  unfold configureMediaPlayer
  split
  · exact h
  · next hnone =>
    rw [not_isSome_iff_eq_none] at hnone
    split
    · exact h
    · cases setSource with
      | none => exact sourced_of_none hnone
      | some =>
        intro other hother _
        rw [mem_singleton.mp hother]
        rfl

variable {info : Item π}

theorem sourced_handOver {info' : Item π} {queue queue' : List (Item π)} (h : Sourced queue)
    (hover : handOver info queue=some (info',queue')) : Sourced [info'] ∧ Sourced queue' := by
  cases queue with
  | nil => cases hover
  | cons =>
    obtain ⟨hfront,hrest⟩ := sourced_cons.mp h
    rw [handOver] at hover
    split at hover
    · cases hover
      exact ⟨hfront.congr rfl rfl,sourced_cons.mpr ⟨sourced_of_none rfl,hrest⟩⟩
    · split at hover
      · cases hover
      · next it hfind =>
        cases hover
        have hit : Sourced [it] := by
          intro other hother
          rw [mem_singleton.mp hother]
          exact hrest it (mem_of_find?_eq_some hfind)
        refine ⟨hit.congr rfl rfl,sourced_cons.mpr ⟨sourced_of_none rfl,hrest.replaceF ?_⟩⟩
        intro item item' hitem _
        split at hitem
        · cases hitem
          exact sourced_of_none rfl
        · cases hitem

theorem mild_executeOnBufferingComplete (s : Player π) (id : Option SourceId) :
    Mild s (s.executeOnBufferingComplete id) := by
  unfold executeOnBufferingComplete
  split
  · refine ⟨rfl,rfl,?_,rfl,rfl,rfl,fun _ h => h,fun _ h => h⟩
    refine Sourced.replaceF ?_
    intro item item' hitem hsourced
    split at hitem
    · cases hitem
      exact hsourced.congr rfl rfl
    · cases hitem
  · split
    · exact .of_eq rfl
    · exact ⟨rfl,rfl,fun h => h,rfl,rfl,rfl,fun _ h => h,fun _ h => h⟩

theorem mild_executeOnReadyToProvideNextPlayer (s : Player π) (a : Answers) :
    Mild s (s.executeOnReadyToProvideNextPlayer a) := by
  unfold executeOnReadyToProvideNextPlayer
  split
  · split
    · exact .of_eq rfl
    · split
      · exact refl s
      · next before item rest hspan =>
        have hqueue : before++item::rest=s.audioPlayQueue := by
          rw [span_eq_takeWhile_dropWhile,Prod.mk.injEq] at hspan
          rw [←hspan.1,←hspan.2,takeWhile_append_dropWhile]
        have hsourced : Sourced s.audioPlayQueue →
            Sourced (before++(s.configureMediaPlayer item (a.setSource rest.length)).2.2::rest) := by
          intro hs
          rw [←hqueue] at hs
          obtain ⟨hbefore,htail⟩ := sourced_append.mp hs
          obtain ⟨hitem,hrest⟩ := sourced_cons.mp htail
          exact sourced_append.mpr ⟨hbefore,sourced_cons.mpr ⟨sourced_configureMediaPlayer _ hitem,hrest⟩⟩
        dsimp only
        rw [configureMediaPlayer_eq]
        exact ⟨rfl,rfl,hsourced,rfl,rfl,rfl,fun _ h => h,fun _ h => h⟩
  · exact refl s

theorem Inv.activate (h : Inv s) (hcurrent : t.currentlyPlaying=s.currentlyPlaying)
    (hqueue : t.audioPlayQueue=s.audioPlayQueue) (hactive : t.currentActivity.active=true)
    (hsource : s.currentlyPlaying.sourceId.isSome=true) : Inv t where
  current := by
    rw [hcurrent]
    exact h.current
  queue := by
    rw [hqueue]
    exact h.queue
  active := by
    rw [hcurrent]
    exact fun _ => hsource
  attended := by
    intro _ hinactive
    rw [hactive] at hinactive
    cases hinactive

section

variable (hcurrent : Sourced [s.currentlyPlaying]) (hqueue : Sourced s.audioPlayQueue)
include hcurrent hqueue

theorem Inv.of_focus (hactive : s.currentActivity.active=true → s.currentlyPlaying.sourceId.isSome=true)
    (hfocus : s.focus≠.foreground) : Inv s :=
  ⟨hcurrent,hqueue,hactive,fun h => (hfocus h).elim⟩

theorem Inv.of_owing (hactive : s.currentActivity.active=false) (howing : s.focus=.foreground → Owing s) : Inv s := by
  refine ⟨hcurrent,hqueue,?_,fun hfocus _ => howing hfocus⟩
  intro h
  rw [hactive] at h
  cases h

end

variable {id : SourceId} {p : SourceId × Reply → Bool}

theorem Owing.filter (h : Owing s)
    (hother : s.currentlyPlaying.sourceId≠some id) (hp : ∀ owed,owed.1≠id → p owed=true) :
    Owing {s with awaited := s.awaited.filter p} := by
  obtain hrelease|hfinishing|⟨current,reply,hcurrent,howed⟩ := h
  · exact .inl hrelease
  · exact .inr (.inl hfinishing)
  · have hne : current≠id := by
      intro heq
      rw [heq] at hcurrent
      exact hother hcurrent
    exact .inr (.inr ⟨current,reply,hcurrent,mem_filter.mpr ⟨howed,hp _ hne⟩⟩)

theorem Inv.filter (h : Inv s) (hother : s.currentlyPlaying.sourceId≠some id) (hp : ∀ owed,owed.1≠id → p owed=true) :
    Inv {s with awaited := s.awaited.filter p} :=
  ⟨h.current,h.queue,h.active,fun hfocus hactive => (h.attended hfocus hactive).filter hother hp⟩

section

variable (id)

theorem inv_playbackStarted (a : Answers) (h : Inv s) :
    Inv ((s.discharge id .started).executeOnPlaybackStarted (some id) a) := by
  by_cases hid : some id=s.currentlyPlaying.sourceId
  · have hsource : s.currentlyPlaying.sourceId.isSome=true := by
      rw [←hid]
      rfl
    unfold executeOnPlaybackStarted discharge
    dsimp only
    rw [if_neg (fun hne => hne hid)]
    split
    · next hfocus =>
      have hnone : Inv {s with
          awaited := s.awaited.filter fun owed => owed≠(id,Reply.started),isStartingPlayback := false} := by
        refine .of_focus h.current h.queue h.active ?_
        rw [hfocus]
        exact nofun
      split
      · exact hnone.mild (mild_await _ _ _)
      · exact hnone
    · split
      · exact h.activate rfl rfl rfl hsource
      · exact h.activate rfl rfl rfl hsource
  · have hother : Inv (s.discharge id .started) := by
      refine h.filter (fun heq => hid heq.symm) ?_
      intro owed howed
      rw [decide_eq_true_iff]
      exact fun heq => howed (congrArg Prod.fst heq)
    have hne : some id≠(s.discharge id .started).currentlyPlaying.sourceId := hid
    unfold executeOnPlaybackStarted
    rw [if_pos hne]
    exact hother.mild (.of_eq rfl)

theorem inv_playbackPaused (h : Inv s) : Inv (s.executeOnPlaybackPaused (some id)) := by
  unfold executeOnPlaybackPaused
  split
  · exact h
  · next hid =>
    rw [not_not] at hid
    exact h.activate rfl rfl rfl (by rw [←hid]; rfl)

theorem inv_playbackResumed (h : Inv s) : Inv (s.executeOnPlaybackResumed (some id)) := by
  unfold executeOnPlaybackResumed
  split
  · exact h
  · next hid =>
    rw [not_not] at hid
    split
    · exact h
    · exact h.activate rfl rfl rfl (by rw [←hid]; rfl)

theorem inv_bufferUnderrun (h : Inv s) : Inv (s.executeOnBufferUnderrun (some id)) := by
  unfold executeOnBufferUnderrun
  split
  · exact h
  · next hid =>
    rw [not_not] at hid
    split
    · exact h
    · exact h.activate rfl rfl rfl (by rw [←hid]; rfl)

theorem inv_bufferRefilled (h : Inv s) : Inv (s.executeOnBufferRefilled (some id)) := by
  unfold executeOnBufferRefilled
  split
  · exact h
  · next hid =>
    rw [not_not] at hid
    exact h.activate rfl rfl rfl (by rw [←hid]; rfl)

theorem inv_seeked (h : Inv s) : Inv (s.executeOnSeeked (some id)) := by
  unfold executeOnSeeked
  dsimp only
  split
  · exact h
  · next hid =>
    rw [not_not] at hid
    split
    · split
      · exact h.activate rfl rfl rfl (by rw [←hid]; rfl)
      · exact h.activate rfl rfl rfl (by rw [←hid]; rfl)
    · split
      · exact h.mild (mild_send _ _)
      · exact h.mild (mild_send _ _)

end

variable [DecidableEq π]

section

variable (s)

theorem mild_clearPlayQueue (stopCurrentPlayer : Bool) : Mild s (s.clearPlayQueue stopCurrentPlayer) := by
  rw [clearPlayQueue_eq]
  refine ⟨rfl,rfl,?_,rfl,rfl,rfl,fun _ h => h,fun _ h => h⟩
  intro _ item hitem
  cases hitem

theorem mild_executeCancel (messageId : String) : Mild s (s.executeCancel messageId) := by
  unfold executeCancel
  split
  · exact refl s
  · have herased : Sourced s.audioPlayQueue →
        Sourced (s.audioPlayQueue.eraseP fun item => item.messageId == messageId) :=
      fun h item hitem => h item (mem_of_mem_eraseP hitem)
    split
    · unfold stopAndReleaseMediaPlayer
      rw [releaseMediaPlayer_eq]
      exact ⟨rfl,rfl,herased,rfl,rfl,rfl,fun _ h => h,fun _ h => h⟩
    · exact ⟨rfl,rfl,herased,rfl,rfl,rfl,fun _ h => h,fun _ h => h⟩

theorem mild_pushItem (h : Sourced [info]) : Mild s (s.pushItem info) := by
  have hpush : ∀ u : Player π,Mild u {u with audioPlayQueue := u.audioPlayQueue++[info]} := fun u =>
    ⟨rfl,rfl,fun hu => sourced_append.mpr ⟨hu,h⟩,rfl,rfl,rfl,fun _ h => h,fun _ h => h⟩
  unfold pushItem
  split
  case h_3 => exact hpush s
  all_goals exact (mild_clearPlayQueue s false).trans (hpush _)

theorem mild_preHandlePlay (a : Answers) (hfresh : info.Fresh)
    (h : Sourced s.audioPlayQueue) : Mild s (s.preHandlePlay info a) := by
  have hinfo : Sourced [info] := sourced_of_none hfresh.1
  unfold preHandlePlay executePrePlay
  split
  · exact refl s
  · split
    · exact refl s
    · split
      · next info' queue' hover =>
        split at hover
        · cases hover
        · obtain ⟨hinfo',hqueue'⟩ := sourced_handOver h hover
          have hleft : Mild s {s with audioPlayQueue := queue'} :=
            ⟨rfl,rfl,fun _ => hqueue',rfl,rfl,rfl,fun _ h => h,fun _ h => h⟩
          exact hleft.trans (mild_pushItem _ hinfo')
      · split
        · have hsourced := @sourced_configureMediaPlayer _ s info (a.setSource s.audioPlayQueue.length) hinfo
          have hconfigured : Mild s (s.configureMediaPlayer info (a.setSource s.audioPlayQueue.length)).2.1 := by
            rw [configureMediaPlayer_eq]
            exact .of_eq rfl
          generalize s.configureMediaPlayer info (a.setSource s.audioPlayQueue.length)=outcome at hsourced hconfigured
          split
          · exact hconfigured
          · exact hconfigured.trans (mild_pushItem _ hsourced)
        · exact mild_pushItem s hinfo

end

omit [DecidableEq π] in
theorem inv_handlePlaybackCompleted (hcurrent : Sourced [s.currentlyPlaying]) (hqueue : Sourced s.audioPlayQueue)
    (hactive : s.currentActivity.active=true → s.currentlyPlaying.sourceId.isSome=true) :
    Inv s.handlePlaybackCompleted := by
  unfold handlePlaybackCompleted
  split
  · exact ⟨hcurrent,hqueue,hactive,fun _ _ => .inl (mem_append_right _ mem_cons_self)⟩
  · next hfocus =>
    rw [not_not] at hfocus
    refine .of_focus hcurrent hqueue hactive ?_
    rw [hfocus]
    exact nofun

variable {next : Player π → Player π}

omit [DecidableEq π] in
theorem inv_executeOnPlaybackStopped (hcurrent : Sourced [s.currentlyPlaying]) (hqueue : Sourced s.audioPlayQueue)
    (hnext : s.currentActivity.active=true → s.playNextItemAfterStopped=true → s.audioPlayQueue≠[] →
      s.focus=.foreground → ∀ t : Player π,t.mediaPlayerFactory=s.mediaPlayerFactory →
        t.currentlyPlaying=s.currentlyPlaying → t.audioPlayQueue=s.audioPlayQueue → Inv (next t)) :
    Inv (s.executeOnPlaybackStopped next s.currentlyPlaying.sourceId) := by
  unfold executeOnPlaybackStopped
  dsimp only
  rw [if_neg (fun hne => hne rfl)]
  have hstopped : (PlayerActivity.stopped.active=true → s.currentlyPlaying.sourceId.isSome=true) :=
    nofun
  split
  · next hactive =>
    split
    · exact inv_handlePlaybackCompleted hcurrent hqueue hstopped
    · next hgoes =>
      rw [Bool.or_eq_true,not_or,Bool.not_eq_true',Bool.not_eq_false] at hgoes
      have hitems : s.audioPlayQueue≠[] := by
        intro hempty
        apply hgoes.2
        rw [hempty]
        rfl
      split
      · next hfocus => exact hnext hactive hgoes.1 hitems hfocus _ rfl rfl rfl
      · next hfocus => exact .of_focus hcurrent hqueue hstopped hfocus
  · next hactive =>
    have hinactive : s.currentActivity.active=true → s.currentlyPlaying.sourceId.isSome=true :=
      fun h => (hactive h).elim
    split
    · exact inv_handlePlaybackCompleted hcurrent hqueue hinactive
    · next hfocus =>
      rw [not_not] at hfocus
      refine .of_focus hcurrent hqueue hinactive ?_
      rw [hfocus]
      exact nofun

omit [DecidableEq π] in
theorem inv_executeOnPlaybackError (type : ErrorType) (error : String) (a : Answers)
    (hcurrent : Sourced [s.currentlyPlaying]) (hqueue : Sourced s.audioPlayQueue)
    (hnext : s.currentActivity.active=true → s.playNextItemAfterStopped=true → s.audioPlayQueue≠[] →
      s.focus=.foreground → ∀ t : Player π,t.mediaPlayerFactory=s.mediaPlayerFactory →
        t.currentlyPlaying=s.currentlyPlaying → t.audioPlayQueue=s.audioPlayQueue → Inv (next t)) :
    Inv (s.executeOnPlaybackError next s.currentlyPlaying.sourceId type error a) := by
  unfold executeOnPlaybackError
  dsimp only
  rw [if_neg (fun hne => hne rfl)]
  split
  · exact @inv_executeOnPlaybackStopped π (sendPlaybackFailedEvent _ _ _ _) _ hcurrent hqueue hnext
  · exact @inv_executeOnPlaybackStopped π _ _ hcurrent hqueue hnext

omit [DecidableEq π] in
/-- The current item gets a player and a source if it can have a player. -/
theorem configureCurrent_success (id : SourceId) (hsourced : Sourced [s.currentlyPlaying])
    (hcan : s.currentlyPlaying.mediaPlayer.isSome=true ∨ s.mediaPlayerFactory.available≠[]) :
    (s.configureCurrent (some id)).1=true ∧ (s.configureCurrent (some id)).2.currentlyPlaying.mediaPlayer.isSome=true ∧
      (s.configureCurrent (some id)).2.currentlyPlaying.sourceId.isSome=true := by
  cases hplayer : s.currentlyPlaying.mediaPlayer with
  | some =>
    have hsome : s.currentlyPlaying.mediaPlayer.isSome=true := by
      rw [hplayer]
      rfl
    unfold configureCurrent
    rw [hplayer,isNone_some,Bool.false_and,if_neg Bool.false_ne_true]
    exact ⟨rfl,hsome,hsourced _ mem_cons_self hsome⟩
  | none =>
    rw [hplayer] at hcan
    have havailable := hcan.resolve_left Bool.false_ne_true
    unfold configureCurrent configureMediaPlayer Factory.isMediaPlayerAvailable Factory.acquireMediaPlayer
    rw [hplayer]
    cases hpool : s.mediaPlayerFactory.available with
    | nil => exact (havailable hpool).elim
    | cons => exact ⟨rfl,rfl,rfl⟩

variable {a : Answers}

omit [DecidableEq π] in
theorem inv_playCurrent (hset : SourcesSet a)
    (hcurrent : Sourced [s.currentlyPlaying]) (hqueue : Sourced s.audioPlayQueue)
    (hcan : s.currentlyPlaying.mediaPlayer.isSome=true ∨ s.mediaPlayerFactory.available≠[])
    (hnext : s.audioPlayQueue≠[] → ∀ t : Player π,
      t.mediaPlayerFactory=(s.configureCurrent (a.setSource s.audioPlayQueue.length)).2.mediaPlayerFactory →
      t.currentlyPlaying=(s.configureCurrent (a.setSource s.audioPlayQueue.length)).2.currentlyPlaying →
      t.currentlyPlaying.mediaPlayer.isSome=true → t.audioPlayQueue=s.audioPlayQueue → Inv (next t)) :
    Inv (s.playCurrent next a) := by
  obtain ⟨id,hid⟩ := isSome_iff_exists.mp (hset s.audioPlayQueue.length)
  have hframe := configureCurrent_eq s (a.setSource s.audioPlayQueue.length)
  have hsuccess := configureCurrent_success id hcurrent hcan
  rw [←hid] at hsuccess
  unfold playCurrent
  dsimp only
  generalize s.configureCurrent (a.setSource s.audioPlayQueue.length)=outcome at hframe hsuccess hnext
  obtain ⟨configured,u⟩ := outcome
  dsimp only at hframe hsuccess hnext
  obtain ⟨rfl,hplayer,hsource⟩ := hsuccess
  have hleft : u.audioPlayQueue=s.audioPlayQueue := by
    rw [hframe]
  have hcurrent' : Sourced [u.currentlyPlaying] := by
    intro item hitem _
    rw [mem_singleton.mp hitem]
    exact hsource
  rw [←hleft] at hqueue hnext
  have hgoes : u.currentActivity.active=true → u.playNextItemAfterStopped=true → u.audioPlayQueue≠[] →
      u.focus=.foreground → ∀ t : Player π,t.mediaPlayerFactory=u.mediaPlayerFactory →
        t.currentlyPlaying=u.currentlyPlaying → t.audioPlayQueue=u.audioPlayQueue → Inv (next t) := by
    intro _ _ hitems _ t hfactory hitem hrest
    refine hnext hitems t hfactory hitem ?_ hrest
    rw [hitem]
    exact hplayer
  dsimp only
  split
  · next hnone =>
    rw [isNone_iff_eq_none] at hnone
    rw [hnone] at hplayer
    cases hplayer
  · split
    · exact inv_executeOnPlaybackError _ _ _ hcurrent' hqueue hgoes
    · split
      · obtain ⟨source,hsource'⟩ := isSome_iff_exists.mp hsource
        rw [hsource']
        refine ⟨hcurrent',hqueue,fun _ => hsource,fun _ _ => ?_⟩
        exact .inr (.inr ⟨source,.started,hsource',mem_append_right _ mem_cons_self⟩)
      · exact inv_executeOnPlaybackError _ _ _ hcurrent' hqueue hgoes

theorem available_releaseCurrent (hshared : Accounted .shared s)
    (hcan : s.currentlyPlaying.mediaPlayer.isSome=true ∨ s.mediaPlayerFactory.available≠[]) :
    (s.releaseMediaPlayer s.currentlyPlaying).mediaPlayerFactory.available≠[] := by
  unfold releaseMediaPlayer
  cases hplayer : s.currentlyPlaying.mediaPlayer with
  | none =>
    rw [hplayer] at hcan
    exact hcan.resolve_left Bool.false_ne_true
  | some player =>
    have hmem : player∈s.mediaPlayerFactory.inUse := by
      apply List.Subperm.subset hshared
      rw [held_cons_some hplayer]
      exact mem_cons_self
    rw [available_releaseMediaPlayer hmem]
    exact append_ne_nil_of_right_ne_nil _ (cons_ne_nil _ _)

/-- The front of the queue can have a player. -/
def CanPlay (s : Player π) : Prop :=
  (∃ front∈s.audioPlayQueue.head?,front.mediaPlayer.isSome=true) ∨
    s.currentlyPlaying.mediaPlayer.isSome=true ∨ s.mediaPlayerFactory.available≠[]

/-- `playNextItem` starts an item or gives the channel back, by induction on the items: one that has failed
leaves its player to the next. -/
theorem inv_playItems (hset : SourcesSet a) (items : List (Item π)) (s : Player π)
    (hitems : s.audioPlayQueue=items) (hne : items≠[]) (hqueue : Sourced items)
    (hshared : Accounted .shared s) (hcan : CanPlay s) : Inv (playItems a items s) := by
  induction items generalizing s with
  | nil => exact (hne rfl).elim
  | cons item rest ih =>
    obtain ⟨hitem,hrest⟩ := sourced_cons.mp hqueue
    have hmade : Accounted .shared ({s with audioPlayQueue := rest}.makeCurrent item) := by
      apply accounted_makeCurrent
      unfold Accounted at hshared
      rw [hitems] at hshared
      exact hshared
    have hplayer : item.mediaPlayer.isSome=true ∨
        (s.releaseMediaPlayer s.currentlyPlaying).mediaPlayerFactory.available≠[] := by
      obtain ⟨front,hfront,hsome⟩|hothers := hcan
      · rw [hitems,List.head?_cons,mem_some] at hfront
        rw [hfront]
        exact .inl hsome
      · exact .inr (available_releaseCurrent hshared hothers)
    rw [playItems]
    generalize hmake : Player.makeCurrent {s with audioPlayQueue := rest} item=u at hmade
    rw [makeCurrent_eq] at hmake
    have hcurrent : u.currentlyPlaying=item := by
      rw [←hmake]
    have hleft : u.audioPlayQueue=rest := by
      rw [←hmake]
    have hfactory : u.mediaPlayerFactory=(s.releaseMediaPlayer s.currentlyPlaying).mediaPlayerFactory := by
      rw [←hmake]
      unfold releaseMediaPlayer
      cases s.currentlyPlaying.mediaPlayer with
      | none => rfl
      | some => rfl
    apply inv_playCurrent hset
    · rw [hcurrent]
      exact hitem
    · rw [hleft]
      exact hrest
    · rw [hcurrent,hfactory]
      exact hplayer
    · intro hmore t hf hc hsome hq
      rw [hleft] at hmore hq
      refine ih t hq hmore hrest ?_ (.inr (.inl hsome))
      have hconfigured : Accounted .shared (u.configureCurrent (a.setSource u.audioPlayQueue.length)).2 :=
        accounted_configureCurrent (fun hexact => (hexact lossy_shared).elim) hmade
      rw [configureCurrent_eq] at hconfigured
      unfold Accounted at hconfigured ⊢
      rw [hf,hc,hq,←hleft]
      exact hconfigured

omit [DecidableEq π] in
theorem sourced_configureCurrent (setSource : Option SourceId) (h : Sourced [s.currentlyPlaying]) :
    Sourced [(s.configureCurrent setSource).2.currentlyPlaying] := by
  unfold configureCurrent
  split
  · exact sourced_configureMediaPlayer setSource h
  · exact h

omit [DecidableEq π] in
/-- No track is on and the channel is not in the foreground. -/
theorem inv_playCurrent_of_focus (next : Player π → Player π) (a : Answers)
    (hcurrent : Sourced [s.currentlyPlaying]) (hqueue : Sourced s.audioPlayQueue)
    (hfocus : s.focus≠.foreground) (hinactive : s.currentActivity.active=false) : Inv (s.playCurrent next a) := by
  have hconfigured := sourced_configureCurrent (a.setSource s.audioPlayQueue.length) hcurrent
  have hframe := configureCurrent_eq s (a.setSource s.audioPlayQueue.length)
  unfold playCurrent
  dsimp only
  generalize s.configureCurrent (a.setSource s.audioPlayQueue.length)=outcome at hframe hconfigured
  obtain ⟨configured,u⟩ := outcome
  dsimp only at hframe hconfigured
  have hleft : Sourced u.audioPlayQueue := by
    rw [hframe]
    exact hqueue
  have hidle : u.currentActivity.active=false := by
    rw [hframe]
    exact hinactive
  have haway : u.focus≠.foreground := by
    rw [hframe]
    exact hfocus
  have hinv : Inv u := .of_focus hconfigured hleft (fun h => Bool.noConfusion (hidle.symm.trans h)) haway
  have herror : ∀ type error, Inv (u.executeOnPlaybackError next u.currentlyPlaying.sourceId type error a) := by
    intro type error
    refine inv_executeOnPlaybackError type error a hconfigured hleft ?_
    intro hactive
    exact Bool.noConfusion (hidle.symm.trans hactive)
  cases configured with
  | false => exact hinv
  | true =>
    dsimp only
    split
    · exact hinv.mild (mild_send _ _)
    · split
      · exact herror _ _
      · split
        · have hstarting : Inv {u with isStartingPlayback := true} := hinv.mild (.of_eq rfl)
          exact hstarting.mild (mild_await _ _ _)
        · exact herror _ _

theorem inv_playItems_of_focus (a : Answers) (items : List (Item π)) (s : Player π) (hqueue : Sourced items)
    (hne : items≠[]) (hfocus : s.focus≠.foreground) (hinactive : s.currentActivity.active=false) :
    Inv (playItems a items s) := by
  cases items with
  | nil => exact (hne rfl).elim
  | cons =>
    obtain ⟨hitem,hrest⟩ := sourced_cons.mp hqueue
    rw [playItems]
    apply inv_playCurrent_of_focus
    · rw [makeCurrent_eq]
      exact hitem
    · rw [makeCurrent_eq]
      exact hrest
    · rw [makeCurrent_eq]
      exact hfocus
    · rw [makeCurrent_eq]
      exact hinactive

theorem inv_playbackFinished (id : SourceId) (h : Inv s) : Inv (s.executeOnPlaybackFinished (some id)) := by
  unfold executeOnPlaybackFinished
  dsimp only
  split
  · exact h
  · split
    · split
      · refine .of_owing (sourced_of_none (released_mediaPlayer _)) ?_ ?_ ?_
        · rw [releaseMediaPlayer_eq]
          exact h.queue
        · rw [releaseMediaPlayer_eq]
          rfl
        · intro _
          exact .inr (.inl (Nat.succ_pos _))
      · exact .of_owing h.current h.queue rfl (fun _ => .inr (.inl (Nat.succ_pos _)))
    · exact h

/-- What `playNextItem` needs to start an item or to give the channel back. -/
def Startable (s : Player π) (a : Answers) : Prop := SourcesSet a ∧ CanPlay s

theorem inv_playNextItem (hqueue : Sourced s.audioPlayQueue) (hshared : Accounted .shared s)
    (hne : s.audioPlayQueue≠[]) (hcan : s.focus=.foreground ∨ s.currentActivity.active=true → Startable s a) :
    Inv (s.playNextItem a) := by
  by_cases hneeds : s.focus=.foreground ∨ s.currentActivity.active=true
  · obtain ⟨hset,hplay⟩ := hcan hneeds
    exact inv_playItems hset s.audioPlayQueue s rfl hne hqueue hshared hplay
  · rw [not_or,Bool.not_eq_true] at hneeds
    exact inv_playItems_of_focus a s.audioPlayQueue s hqueue hne hneeds.1 hneeds.2

theorem inv_finish (h : Inv s) (hshared : Accounted .shared s)
    (hcan : s.audioPlayQueue≠[] → s.focus=.foreground ∨ s.currentActivity.active=true → Startable s a) :
    Inv (s.executeFinish a) := by
  have hitems : ¬s.audioPlayQueue.isEmpty=true → s.audioPlayQueue≠[] := by
    rw [List.isEmpty_iff]
    exact fun hne => hne
  unfold executeFinish
  dsimp only
  split
  · split
    · exact inv_handlePlaybackCompleted h.current h.queue h.active
    · next hne => exact inv_playNextItem h.queue hshared (hitems hne) (hcan (hitems hne))
  · split
    · exact inv_handlePlaybackCompleted h.current h.queue h.active
    · next hne => exact inv_playNextItem h.queue hshared (hitems hne) (hcan (hitems hne))

/-- In the foreground it has an item it can start, or waits. -/
def Welcome (s : Player π) (behavior : MixingBehavior) (a : Answers) : Prop :=
  ¬(s.focus=.foreground ∧ s.mixingBehavior=behavior) → s.isLocalResumePending=false → s.currentActivity.active=false →
    if s.audioPlayQueue≠[] ∧ s.isStartingPlayback=false then Startable s a else Owing s

theorem inv_onForeground (behavior : MixingBehavior) (h : Inv s) (hshared : Accounted .shared s)
    (hwelcome : s.isLocalResumePending=false → s.currentActivity.active=false →
      if s.audioPlayQueue≠[] ∧ s.isStartingPlayback=false then Startable s a else Owing s) :
    Inv ({s with focus := .foreground,mixingBehavior := behavior}.onForeground a) := by
  unfold onForeground
  dsimp only
  split
  · split
    · next hplays =>
      rw [Bool.and_eq_true,Bool.and_eq_true] at hplays
      obtain ⟨source,hsource⟩ := isSome_iff_exists.mp hplays.1.2
      rw [hsource]
      refine ⟨h.current,h.queue,h.active,fun _ _ => ?_⟩
      exact .inr (.inr ⟨source,.started,hsource,mem_append_right _ mem_cons_self⟩)
    · exact ⟨h.current,h.queue,h.active,fun _ _ => .inl (mem_append_right _ mem_cons_self)⟩
  · next hlocal =>
    rw [Bool.not_eq_true] at hlocal
    let u : Player π :=
      {s with
        focus := .foreground
        mixingBehavior := behavior
        isAcquireChannelRequestPending := false}
    have hidle : s.currentActivity.active=false →
        Inv (if !s.audioPlayQueue.isEmpty && !s.isStartingPlayback then u.playNextItem a else u) := by
      intro hinactive
      have hready := hwelcome hlocal hinactive
      by_cases hgoes : s.audioPlayQueue≠[] ∧ s.isStartingPlayback=false
      · rw [if_pos hgoes] at hready
        have hbranch : (!s.audioPlayQueue.isEmpty && !s.isStartingPlayback)=true := by
          rw [hgoes.2,Bool.not_false,Bool.and_true,Bool.not_eq_true',←Bool.not_eq_true,List.isEmpty_iff]
          exact hgoes.1
        rw [if_pos hbranch]
        exact inv_playNextItem h.queue hshared hgoes.1 (fun _ => hready)
      · rw [if_neg hgoes] at hready
        have hbranch : ¬(!s.audioPlayQueue.isEmpty && !s.isStartingPlayback)=true := by
          intro hboth
          rw [Bool.and_eq_true,Bool.not_eq_true',Bool.not_eq_true',←Bool.not_eq_true,List.isEmpty_iff] at hboth
          exact hgoes hboth
        rw [if_neg hbranch]
        exact .of_owing h.current h.queue hinactive (fun _ => hready)
    have hactive : s.currentActivity.active=true → Inv u := by
      intro hon
      exact h.activate rfl rfl hon (h.active hon)
    split
    · next hactivity => exact hidle (by rw [hactivity]; rfl)
    · next hactivity => exact hidle (by rw [hactivity]; rfl)
    · next hactivity => exact hidle (by rw [hactivity]; rfl)
    · next hactivity =>
      split
      · exact hactive (by rw [hactivity]; rfl)
      · refine Inv.mild ?_ (mild_request _ _)
        refine Inv.mild ?_ (mild_send _ _)
        exact hactive (by rw [hactivity]; rfl)
    · next hactivity => exact hactive (by rw [hactivity]; rfl)
    · next hactivity => exact hactive (by rw [hactivity]; rfl)

theorem inv_onBackground (behavior : MixingBehavior) (h : Inv s) (hshared : Accounted .shared s) :
    Inv ({s with focus := .background,mixingBehavior := behavior}.onBackground s.focus a) := by
  have haway : FocusState.background≠.foreground := nofun
  unfold onBackground
  dsimp only
  split
  · exact .of_focus h.current h.queue h.active haway
  · split
    · exact .of_focus h.current h.queue h.active haway
    · next hinactive =>
      rw [Bool.not_eq_true] at hinactive
      split
      · exact .of_focus h.current h.queue h.active haway
      · next front rest hqueue =>
        split
        · apply inv_playNextItem
          · exact h.queue
          · exact hshared
          · intro hempty
            exact cons_ne_nil front rest (hqueue.symm.trans hempty)
          · rintro (hfocus|hactive)
            · exact (haway hfocus).elim
            · exact Bool.noConfusion (hinactive.symm.trans hactive)
        · exact .of_focus h.current h.queue h.active haway

theorem inv_onNone (behavior : MixingBehavior) (hcurrent : Sourced [s.currentlyPlaying])
    (hqueue : Sourced s.audioPlayQueue)
    (hactive : s.currentActivity.active=true → s.currentlyPlaying.sourceId.isSome=true) :
    Inv ({s with focus := .none,mixingBehavior := behavior}.onNone a) := by
  have haway : Inv {s with focus := .none,mixingBehavior := behavior} :=
    .of_focus hcurrent hqueue hactive nofun
  unfold onNone
  split
  · exact (haway.mild (mild_clearPlayQueue _ _)).mild (mild_executeStop _ _ _)
  · exact haway

theorem inv_executeOnFocusChanged (newFocus : FocusState) (behavior : MixingBehavior) (h : Inv s)
    (hshared : Accounted .shared s) (hwelcome : newFocus=.foreground → Welcome s behavior a) :
    Inv (s.executeOnFocusChanged newFocus behavior a) := by
  unfold executeOnFocusChanged
  split
  · exact h
  · next hchanged =>
    cases newFocus with
    | foreground => exact inv_onForeground behavior h hshared (hwelcome rfl hchanged)
    | background => exact inv_onBackground behavior h hshared
    | none => exact inv_onNone behavior h.current h.queue h.active

/-- The source has stopped in the foreground, and the next item starts. -/
def Continues (s : Player π) (id : SourceId) : Prop :=
  s.currentlyPlaying.sourceId=some id ∧ s.currentActivity.active=true ∧
    s.playNextItemAfterStopped=true ∧ s.audioPlayQueue≠[] ∧ s.focus=.foreground

/-- The next item can have a player and a source, and the player comes to the foreground with an item it can
start, or waiting. -/
def Allowed (s : Player π) : PlayerTask π → Prop
  | .acquired false behavior a | .focusChanged .foreground behavior a => Welcome s behavior a
  | .playbackStopped id a | .playbackError id _ _ a => Continues s id → Startable s a
  | .finish a => s.audioPlayQueue≠[] → s.focus=.foreground ∨ s.currentActivity.active=true → Startable s a
  | _ => True

/-- The next item is started from any state with the same items and players. -/
theorem inv_playNextItem_of_eq (h : Inv s) (hshared : Accounted .shared s)
    (hne : s.audioPlayQueue≠[]) (hstartable : Startable s a) (hfactory : t.mediaPlayerFactory=s.mediaPlayerFactory)
    (hcurrent : t.currentlyPlaying=s.currentlyPlaying) (hqueue : t.audioPlayQueue=s.audioPlayQueue) :
    Inv (t.playNextItem a) := by
  apply inv_playNextItem
  · rw [hqueue]
    exact h.queue
  · unfold Accounted
    rw [hfactory,hcurrent,hqueue]
    exact hshared
  · rw [hqueue]
    exact hne
  · intro _
    unfold Startable CanPlay
    rw [hqueue,hcurrent,hfactory]
    exact hstartable

omit [DecidableEq π] in
/-- With another source it owes the current one what it did. -/
theorem Inv.dischargeAll (h : Inv s) (hother : some id≠s.currentlyPlaying.sourceId) : Inv (s.dischargeAll id) := by
  refine h.filter (fun heq => hother heq.symm) ?_
  intro owed howed
  rw [decide_eq_true_iff]
  exact howed

theorem inv_playbackStopped (id : SourceId) (h : Inv s) (hshared : Accounted .shared s)
    (hallowed : Continues s id → Startable s a) :
    Inv ((s.dischargeAll id).executeOnPlaybackStopped (fun s => s.playNextItem a) (some id)) := by
  by_cases hid : some id=s.currentlyPlaying.sourceId
  · have hid' : some id=(s.dischargeAll id).currentlyPlaying.sourceId := hid
    rw [hid']
    refine inv_executeOnPlaybackStopped h.current h.queue ?_
    intro hactive hflag hne hfocus t
    exact inv_playNextItem_of_eq (s := s) h hshared hne (hallowed ⟨hid.symm,hactive,hflag,hne,hfocus⟩)
  · have hid' : some id≠(s.dischargeAll id).currentlyPlaying.sourceId := hid
    unfold executeOnPlaybackStopped
    rw [if_pos hid']
    exact h.dischargeAll hid

theorem inv_playbackError (id : SourceId) (type : ErrorType) (error : String) (h : Inv s)
    (hshared : Accounted .shared s) (hallowed : Continues s id → Startable s a) :
    Inv ((s.dischargeAll id).executeOnPlaybackError (fun s => s.playNextItem a) (some id) type error a) := by
  by_cases hid : some id=s.currentlyPlaying.sourceId
  · have hid' : some id=(s.dischargeAll id).currentlyPlaying.sourceId := hid
    rw [hid']
    refine inv_executeOnPlaybackError type error a h.current h.queue ?_
    intro hactive hflag hne hfocus t
    exact inv_playNextItem_of_eq (s := s) h hshared hne (hallowed ⟨hid.symm,hactive,hflag,hne,hfocus⟩)
  · have hid' : some id≠(s.dischargeAll id).currentlyPlaying.sourceId := hid
    unfold executeOnPlaybackError
    rw [if_pos hid']
    refine (h.dischargeAll hid).mild ⟨rfl,rfl,?_,rfl,rfl,rfl,fun _ h => h,fun _ h => h⟩
    refine Sourced.replaceF ?_
    intro item item' hitem hsourced
    split at hitem
    · cases hitem
      exact hsourced.congr rfl rfl
    · cases hitem

omit [DecidableEq π] in
theorem owing_tail (h : Owing s) (hhead : s.requests.head?=some .acquire) :
    Owing {s with requests := s.requests.tail} := by
  obtain hrelease|hothers := h
  · cases hrequests : s.requests with
    | nil =>
      rw [hrequests] at hrelease
      cases hrelease
    | cons =>
      rw [hrequests,List.head?_cons,some.injEq] at hhead
      rw [hrequests,hhead,mem_cons] at hrelease
      left
      exact hrelease.resolve_left nofun
  · exact .inr hothers

omit [DecidableEq π] in
/-- An answered request that was not a release leaves what is owed. -/
theorem inv_tail (h : Inv s) (hhead : s.requests.head?=some .acquire) : Inv {s with requests := s.requests.tail} := by
  refine ⟨h.current,h.queue,h.active,?_⟩
  intro hfocus hinactive
  exact owing_tail (h.attended hfocus hinactive) hhead

theorem inv_perform {task : PlayerTask π} (hpossible : Possible s task) (hallowed : Allowed s task) (h : Inv s)
    (hshared : Accounted .shared s) : Inv (s.perform task) := by
  cases task with
  | preHandlePlay info a => exact h.mild (mild_preHandlePlay s a hpossible h.queue)
  | play messageId a => exact h.mild (mild_executePlay s messageId a)
  | stop a => exact h.mild (mild_executeStop s false a)
  | clearQueue clearBehavior a =>
    cases clearBehavior with
    | clearEnqueued => exact h.mild ((mild_clearPlayQueue s true).trans (mild_send _ _))
    | clearAll =>
      exact h.mild (((mild_executeStop s false a).trans (mild_clearPlayQueue _ false)).trans (mild_send _ _))
  | cancel messageId => exact h.mild (mild_executeCancel s messageId)
  | deregistered a => exact h.mild ((mild_executeStop s false a).trans (mild_clearPlayQueue _ false))
  | acquired background behavior =>
    refine inv_executeOnFocusChanged _ behavior (inv_tail h hpossible) hshared ?_
    intro hforeground
    cases background with
    | true => cases hforeground
    | false =>
      intro hchanged hlocal hinactive
      have hready := hallowed hchanged hlocal hinactive
      split
      · next hgoes =>
        rw [if_pos hgoes] at hready
        exact hready
      · next hgoes =>
        rw [if_neg hgoes] at hready
        exact owing_tail hready hpossible
  | released behavior =>
    change Inv (if s.focus=.none then _ else _)
    split
    · next hfocus =>
      refine .of_focus h.current h.queue h.active ?_
      rw [hfocus]
      exact nofun
    · next hfocus =>
      unfold executeOnFocusChanged
      rw [if_neg (fun heq => hfocus heq.1)]
      exact @inv_onNone π {s with requests := s.requests.tail} _ _ behavior h.current h.queue h.active
  | focusChanged newFocus behavior =>
    refine inv_executeOnFocusChanged newFocus behavior h hshared ?_
    intro hforeground
    rw [hforeground] at hallowed
    exact hallowed
  | playbackStarted id a => exact inv_playbackStarted id a h
  | playbackStopped id => exact inv_playbackStopped id h hshared hallowed
  | playbackFinished id => exact inv_playbackFinished id h
  | playbackError id type error => exact inv_playbackError id type error h hshared hallowed
  | playbackPaused id => exact inv_playbackPaused id h
  | playbackResumed id => exact inv_playbackResumed id h
  | bufferUnderrun id => exact inv_bufferUnderrun id h
  | bufferRefilled id => exact inv_bufferRefilled id h
  | seeked id => exact inv_seeked id h
  | bufferingComplete => exact h.mild (mild_executeOnBufferingComplete s _)
  | readyToProvideNextPlayer a => exact h.mild (mild_executeOnReadyToProvideNextPlayer s a)
  | finish => exact inv_finish h hshared hallowed
  | localOperation op a => exact h.mild (mild_executeLocalOperation s op a)

/-- The executor, the focus manager and the players of the source are done. -/
structure Rests (s : Player π) : Prop where
  finishing : s.finishing=0
  requests : s.requests=[]
  awaited : ∀ id reply,s.currentlyPlaying.sourceId=some id → (id,reply)∉s.awaited

def UsesForeground (s : Player π) : Prop :=
  s.focus=.foreground → s.currentActivity.active=true ∧ s.currentlyPlaying.sourceId.isSome=true

/-- Over every run in which items can have players and sources, and the channel comes to a player with something
to play, a player at rest does not keep the foreground for nothing. -/
theorem foreground_not_kept_idle {pool : List π} {flag : Bool} {tasks : List (PlayerTask π)} {s : Player π}
    (run : Run (Guarded Step Allowed) (create pool flag) tasks s) (rests : Rests s) : UsesForeground s := by
  have hinv : Inv s ∧ Accounted .shared s := by
    refine run.invariant (fun s => Inv s ∧ Accounted .shared s) ?_ ?_
    · refine ⟨.of_focus (sourced_of_none rfl) ?_ (fun h => Bool.noConfusion h)
        (fun hne => FocusState.noConfusion hne),List.nil_subperm⟩
      intro item hitem
      cases hitem
    · rintro s task _ ⟨hs,hshared⟩ ⟨hallowed,hpossible,rfl⟩
      refine ⟨inv_perform hpossible hallowed hs hshared,?_⟩
      exact accounted_perform hpossible (fun hexact => (hexact lossy_shared).elim) hshared
  intro hfocus
  cases hactive : s.currentActivity.active with
  | true => exact ⟨rfl,hinv.1.active hactive⟩
  | false =>
    obtain hrelease|hfinishing|⟨id,reply,hid,howed⟩ := hinv.1.attended hfocus hactive
    · rw [rests.requests] at hrelease
      cases hrelease
    · rw [rests.finishing] at hfinishing
      cases hfinishing
    · exact (rests.awaited id reply hid howed).elim

/-- A track is played: the player has the foreground and rests. -/
theorem foreground_not_kept_idle_one_track :
    ∃ tasks s,Run (Guarded Step Allowed) (create [0] false) tasks s ∧ Rests s ∧ s.focus=.foreground ∧
      UsesForeground s := by
  have run := (@Run.refl _ _ (Guarded Step Allowed) (create [0] false)).allow
    (step_perform (.preHandlePlay (Item.create "track") (.success 1)) ⟨rfl,rfl,rfl,rfl⟩) trivial
  have run := run.allow (step_perform (.play "track" (.success 1)) trivial) trivial
  have run := run.allow (step_perform (.acquired false .primary (.success 1)) rfl) ?welcome
  have run := run.allow (step_perform (.playbackStarted 1 (.success 1)) trivial) trivial
  · refine ⟨_,_,run,?rests,by decide,foreground_not_kept_idle run ?rests⟩
    refine ⟨by decide,by decide,?_⟩
    exact nofun
  · intro _ _ _
    rw [if_pos ⟨by decide,by decide⟩]
    exact ⟨fun _ => rfl,.inl ⟨_,rfl,rfl⟩⟩

/-- The second source cannot be set: the foreground is kept for nothing. -/
theorem unset_source_keeps_foreground :
    ¬∀ (pool : List ℕ) flag tasks s,Run Step (create pool flag) tasks s → Rests s → UsesForeground s := by
  intro hall
  have run := (@Run.refl _ _ Step (create [0] false)).snoc
    (step_perform (.preHandlePlay (Item.create "first") (.success 1)) ⟨rfl,rfl,rfl,rfl⟩)
  have run := run.snoc (step_perform (.play "first" (.success 1)) trivial)
  have run := run.snoc (step_perform (.acquired false .primary (.success 1)) rfl)
  have run := run.snoc (step_perform (.playbackStarted 1 (.success 1)) trivial)
  have run := run.snoc (step_perform (.preHandlePlay (Item.create "second") (.success 2)) ⟨rfl,rfl,rfl,rfl⟩)
  have run := run.snoc (step_perform (.playbackFinished 1) trivial)
  have run := run.snoc
    (step_perform (.finish {Answers.success 2 with setSource := fun _ => none}) (Nat.succ_pos 0))
  refine absurd (hall _ _ _ _ run ?rests (by decide)).1 (by decide)
  refine ⟨by decide,by decide,?_⟩
  exact nofun

end AlexaClientSDK.AudioPlayerChannel
