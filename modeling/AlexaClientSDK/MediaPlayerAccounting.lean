import Mathlib.Data.List.TakeDrop
import AlexaClientSDK.LabelledRuns
import AlexaClientSDK.AudioPlayer

/-!
# Who holds the media players

An acquired media player is held by the current item or by one item of the queue. Two places break this.
`configureMediaPlayer` forgets the player when `setSource` fails, and `executePrePlay` overwrites the front of the
queue, with its player, when the audio of the directive is found behind it.
-/

namespace AlexaClientSDK.MediaPlayerAccounting

open List LabelledRuns FocusChannel PooledMediaPlayerFactory AudioPlayer Player

variable {π : Type}

def held (items : List (Item π)) : List π := items.filterMap Item.mediaPlayer

variable {items items' : List (Item π)} {item : Item π} {s t : Player π}

/-- An item whose player is the same may take the place of another. -/
theorem held_cons_congr {item' : Item π} (hplayer : item'.mediaPlayer=item.mediaPlayer) :
    held (item'::items)=held (item::items) := by
  unfold held
  rw [filterMap_cons,filterMap_cons,hplayer]

theorem held_cons_none (hplayer : item.mediaPlayer=none) : held (item::items)=held items := by
  unfold held
  rw [filterMap_cons,hplayer]

theorem held_cons_some {player : π} (hplayer : item.mediaPlayer=some player) :
    held (item::items)=player::held items := by
  unfold held
  rw [filterMap_cons,hplayer]

theorem held_cons_cons_none {first : Item π} (hplayer : item.mediaPlayer=none) :
    held (first::item::items)=held (first::items) := by
  unfold held
  rw [filterMap_cons,filterMap_cons,filterMap_cons,hplayer]

theorem held_append : held (items++items')=held items++held items' :=
  filterMap_append

theorem held_cons_perm (h : (held items').Perm (held items)) : (held (item::items')).Perm (held (item::items)) := by
  rw [←singleton_append,held_append,←singleton_append (l := items),held_append]
  exact h.append_left (held [item])

theorem held_perm (hperm : items'.Perm items) : (held items').Perm (held items) :=
  hperm.filterMap Item.mediaPlayer

theorem held_replaceF {change : Item π → Option (Item π)}
    (hchange : ∀ item item',change item=some item' → item'.mediaPlayer=item.mediaPlayer)
    (items : List (Item π)) : held (items.replaceF change)=held items := by
  induction items with
  | nil => rfl
  | cons item items ih =>
    cases hitem : change item with
    | none =>
      rw [List.replaceF,hitem]
      unfold held at ih ⊢
      rw [filterMap_cons,filterMap_cons,ih]
    | some item' =>
      rw [List.replaceF,hitem]
      exact held_cons_congr (hchange item item' hitem)

variable {p : Item π → Bool}

theorem held_replaceF_abandon {it : Item π} (items : List (Item π)) (hfind : items.find? p=some it) :
    (held (it::items.replaceF fun other => if p other then some other.abandon else none)).Perm (held items) := by
  induction items with
  | nil => cases hfind
  | cons item items ih =>
    cases hitem : p item with
    | true =>
      rw [List.find?_cons_of_pos hitem] at hfind
      cases hfind
      rw [List.replaceF,hitem]
      change (held (it::it.abandon::items)).Perm _
      rw [held_cons_cons_none rfl]
    | false =>
      rw [List.find?_cons_of_neg (by rw [hitem]; exact Bool.false_ne_true)] at hfind
      rw [List.replaceF,hitem]
      refine (held_perm (List.Perm.swap item it _)).trans ?_
      exact held_cons_perm (ih hfind)

/-- It keeps one holder, as others do, unless the audio is behind the front. -/
theorem handOver_cases {info info' : Item π} {queue queue' : List (Item π)}
    (hover : handOver info queue=some (info',queue')) : ∃ front rest,queue=front::rest ∧
      (info.repeats front=true ∧ (held (info'::queue')).Perm (held queue) ∨
        info.repeats front=false ∧ (∃ it∈rest,info.repeats it=true) ∧
          (held (front::info'::queue')).Perm (held queue)) := by
  cases queue with
  | nil => cases hover
  | cons front rest =>
    refine ⟨front,rest,rfl,?_⟩
    rw [handOver] at hover
    have hadopt : ∀ it others,held (info.adopt it::others)=held (it::others) :=
      fun _ _ => held_cons_congr rfl
    split at hover
    · next hyes =>
      cases hover
      refine .inl ⟨hyes,?_⟩
      rw [held_cons_cons_none rfl,hadopt]
    · next hno =>
      rw [Bool.not_eq_true] at hno
      split at hover
      · cases hover
      · next it hfind =>
        cases hover
        refine .inr ⟨hno,⟨it,mem_of_find?_eq_some hfind,List.find?_some hfind⟩,held_cons_perm ?_⟩
        rw [held_cons_cons_none rfl,hadopt]
        exact held_replaceF_abandon rest hfind

theorem perm_eraseP_of_find? (hfind : items.find? p=some item) : items.Perm (item::items.eraseP p) := by
  obtain ⟨hitem,before,after,rfl,hbefore⟩ := List.find?_eq_some_iff_append.mp hfind
  have hkept : ∀ other∈before,¬p other=true := by
    intro other hother
    have hno := hbefore other hother
    rw [Bool.not_eq_true'] at hno
    rw [hno]
    exact Bool.false_ne_true
  rw [eraseP_append_right _ hkept,eraseP_cons_of_pos hitem]
  exact perm_middle

/-- No item gets, loses or passes on a player. -/
structure Keeps (s t : Player π) : Prop where
  factory : t.mediaPlayerFactory=s.mediaPlayerFactory
  current : t.currentlyPlaying.mediaPlayer=s.currentlyPlaying.mediaPlayer
  queue : held t.audioPlayQueue=held s.audioPlayQueue

open Keeps

theorem Keeps.refl (s : Player π) : Keeps s s := ⟨rfl,rfl,rfl⟩

theorem Keeps.trans {u : Player π} (h : Keeps s t) (h' : Keeps t u) : Keeps s u :=
  ⟨h'.factory.trans h.factory,h'.current.trans h.current,h'.queue.trans h.queue⟩

section

variable (s)

theorem keeps_await (id : Option SourceId) (reply : Reply) : Keeps s (s.await id reply) := by
  rw [await_eq]
  exact ⟨rfl,rfl,rfl⟩

theorem keeps_handlePlaybackCompleted : Keeps s s.handlePlaybackCompleted := by
  rw [handlePlaybackCompleted_eq]
  exact ⟨rfl,rfl,rfl⟩

theorem keeps_executeStop (playNextItem : Bool) (a : Answers) : Keeps s (s.executeStop playNextItem a) := by
  rw [executeStop_eq]
  exact ⟨rfl,rfl,rfl⟩

section

variable (id : Option SourceId)

theorem keeps_executeOnPlaybackStarted (a : Answers) : Keeps s (s.executeOnPlaybackStarted id a) := by
  unfold executeOnPlaybackStarted
  dsimp only
  split
  · exact ⟨rfl,rfl,rfl⟩
  · split
    · split
      · rw [await_eq]
        exact ⟨rfl,rfl,rfl⟩
      · exact ⟨rfl,rfl,rfl⟩
    · split
      · exact ⟨rfl,rfl,rfl⟩
      · exact ⟨rfl,rfl,rfl⟩

theorem keeps_executeOnBufferingComplete : Keeps s (s.executeOnBufferingComplete id) := by
  unfold executeOnBufferingComplete
  split
  · refine ⟨rfl,rfl,held_replaceF ?_ s.audioPlayQueue⟩
    intro item item' hitem
    split at hitem
    · cases hitem
      rfl
    · cases hitem
  · split
    · exact ⟨rfl,rfl,rfl⟩
    · exact ⟨rfl,rfl,rfl⟩

theorem keeps_executeOnPlaybackPaused : Keeps s (s.executeOnPlaybackPaused id) := by
  unfold executeOnPlaybackPaused
  split
  · exact refl s
  · exact ⟨rfl,rfl,rfl⟩

theorem keeps_executeOnPlaybackResumed : Keeps s (s.executeOnPlaybackResumed id) := by
  unfold executeOnPlaybackResumed
  split
  · exact refl s
  · split
    · exact refl s
    · exact ⟨rfl,rfl,rfl⟩

theorem keeps_executeOnBufferUnderrun : Keeps s (s.executeOnBufferUnderrun id) := by
  unfold executeOnBufferUnderrun
  split
  · exact refl s
  · split
    · exact refl s
    · exact ⟨rfl,rfl,rfl⟩

theorem keeps_executeOnBufferRefilled : Keeps s (s.executeOnBufferRefilled id) := by
  unfold executeOnBufferRefilled
  split
  · exact refl s
  · exact ⟨rfl,rfl,rfl⟩

theorem keeps_executeOnSeeked : Keeps s (s.executeOnSeeked id) := by
  unfold executeOnSeeked
  dsimp only
  split
  · exact refl s
  · split
    · split
      · exact ⟨rfl,rfl,rfl⟩
      · exact ⟨rfl,rfl,rfl⟩
    · split
      · exact ⟨rfl,rfl,rfl⟩
      · exact ⟨rfl,rfl,rfl⟩

end

theorem keeps_executePlay (messageId : String) (a : Answers) : Keeps s (s.executePlay messageId a) := by
  unfold executePlay
  split
  · exact refl s
  · next playItem _ _ =>
    split
    · exact refl s
    · have hstop : Keeps s (if playItem.playBehavior=.replaceAll then s.executeStop true a else s) := by
        split
        · exact keeps_executeStop s true a
        · exact refl s
      refine hstop.trans ?_
      generalize (if playItem.playBehavior=.replaceAll then s.executeStop true a else s)=u
      dsimp only
      split
      case h_4 =>
        split
        · exact ⟨rfl,rfl,rfl⟩
        · exact refl u
      case h_5 => exact refl u
      case h_6 => exact refl u
      all_goals
        split
        · split
          · exact refl u
          · split
            · exact ⟨rfl,rfl,rfl⟩
            · exact ⟨rfl,rfl,rfl⟩
        · exact refl u

theorem keeps_executeLocalOperation (op : PlaybackOperation) (a : Answers) :
    Keeps s (s.executeLocalOperation op a) := by
  unfold executeLocalOperation
  split
  · split
    case h_1 =>
      split
      · split
        · split
          · exact ⟨rfl,rfl,rfl⟩
          · split
            · exact ⟨rfl,rfl,rfl⟩
            · exact ⟨rfl,rfl,rfl⟩
        · split
          · exact keeps_await s _ _
          · exact refl s
      · exact refl s
    case h_2 => exact refl s
    case h_3 => exact refl s
    all_goals
      split
      · split
        · rw [await_eq]
          exact ⟨rfl,rfl,rfl⟩
        · exact ⟨rfl,rfl,rfl⟩
      · exact refl s
  · exact refl s

end

variable [DecidableEq π]

def Holds (L : Ledger π) (f : Factory π) (items : List (Item π)) : Prop := L.balances f (held items)

/-- What the ledger says of the players the current item and the queue hold. -/
def Accounted (L : Ledger π) (s : Player π) : Prop :=
  Holds L s.mediaPlayerFactory (s.currentlyPlaying::s.audioPlayQueue)

variable {L : Ledger π} {f : Factory π}

/-- Only the players of the items count, in any order. -/
theorem Holds.perm (h : Holds L f items) (hperm : (held items').Perm (held items)) : Holds L f items' :=
  L.perm h hperm

theorem Holds.reorder (h : Holds L f items) (hperm : items'.Perm items) : Holds L f items' :=
  h.perm (held_perm hperm)

/-- A holder that has nothing to lose, or whose player may be lost, goes. -/
theorem Holds.drop (h : Holds L f (item::items)) (hplayer : ¬L.Lossy → item.mediaPlayer=none) : Holds L f items := by
  cases hitem : item.mediaPlayer with
  | none => exact h.perm (List.Perm.of_eq (held_cons_none hitem).symm)
  | some =>
    have hlossy : L.Lossy := by
      by_contra hexact
      rw [hplayer hexact] at hitem
      cases hitem
    unfold Holds at h
    rw [held_cons_some hitem] at h
    exact hlossy h

theorem Accounted.keeps (h : Accounted L s) (hkeeps : Keeps s t) : Accounted L t := by
  unfold Accounted
  rw [hkeeps.factory]
  refine Holds.perm h (List.Perm.of_eq ?_)
  rw [held_cons_congr hkeeps.current,←singleton_append,held_append,hkeeps.queue,←held_append,singleton_append]

variable {setSource : Option SourceId}

theorem holds_configureMediaPlayer
    (hset : ¬L.Lossy → setSource.isSome=true) (h : Holds L s.mediaPlayerFactory (item::items)) :
    Holds L (s.configureMediaPlayer item setSource).2.1.mediaPlayerFactory
      ((s.configureMediaPlayer item setSource).2.2::items) := by
  unfold configureMediaPlayer
  split
  · exact h
  · next hnone =>
    rw [Option.not_isSome_iff_eq_none] at hnone
    split
    · exact h
    · next player factory hacquired =>
      unfold Holds at h
      rw [held_cons_none hnone] at h
      have hacquire := L.acquire h hacquired
      cases setSource with
      | some =>
        unfold Holds
        rw [held_cons_some rfl]
        exact hacquire
      | none =>
        have hlossy : L.Lossy := by
          by_contra hexact
          cases hset hexact
        have hheld : held ({item with reader := false}::items)=held items := held_cons_none hnone
        unfold Holds
        rw [hheld]
        exact hlossy hacquire

theorem holds_releaseMediaPlayer (h : Holds L s.mediaPlayerFactory (item::items)) :
    Holds L (s.releaseMediaPlayer item).mediaPlayerFactory items := by
  unfold releaseMediaPlayer
  cases hplayer : item.mediaPlayer with
  | none => exact h.perm (List.Perm.of_eq (held_cons_none hplayer).symm)
  | some =>
    unfold Holds at h
    rw [held_cons_some hplayer] at h
    exact L.release h

section

variable (stopCurrentPlayer : Bool)

theorem holds_foldl_clearItem (queue : List (Item π)) (s : Player π) (h : Holds L s.mediaPlayerFactory (queue++items)) :
    Holds L (queue.foldl (clearItem stopCurrentPlayer) s).mediaPlayerFactory items := by
  induction queue generalizing s with
  | nil => exact h
  | cons item queue ih =>
    rw [foldl_cons]
    apply ih
    unfold clearItem stopAndReleaseMediaPlayer
    split
    · split
      · exact holds_releaseMediaPlayer h
      · exact holds_releaseMediaPlayer h
    · next hnone =>
      rw [Option.not_isSome_iff_eq_none] at hnone
      exact h.perm (List.Perm.of_eq (held_cons_none hnone).symm)

theorem holds_clearPlayQueue (h : Holds L s.mediaPlayerFactory (s.currentlyPlaying::s.audioPlayQueue++items)) :
    Holds L (s.clearPlayQueue stopCurrentPlayer).mediaPlayerFactory
      ((s.clearPlayQueue stopCurrentPlayer).currentlyPlaying::items) := by
  unfold clearPlayQueue
  rw [congrArg currentlyPlaying (foldl_clearItem_eq stopCurrentPlayer s.audioPlayQueue s)]
  apply holds_foldl_clearItem
  exact h.reorder perm_middle

theorem accounted_clearPlayQueue (h : Accounted L s) : Accounted L (s.clearPlayQueue stopCurrentPlayer) := by
  have hitems : Holds L s.mediaPlayerFactory (s.currentlyPlaying::s.audioPlayQueue++[]) := by
    rw [append_nil]
    exact h
  exact holds_clearPlayQueue stopCurrentPlayer hitems

end

theorem accounted_executeCancel (messageId : String) (h : Accounted L s) : Accounted L (s.executeCancel messageId) := by
  unfold executeCancel
  split
  · exact h
  · next item hfind =>
    have hitems : Holds L s.mediaPlayerFactory (item::s.currentlyPlaying ::
        s.audioPlayQueue.eraseP fun item => item.messageId == messageId) :=
      Holds.reorder h ((List.Perm.swap _ _ _).trans ((perm_eraseP_of_find? hfind).symm.cons _))
    split
    · unfold stopAndReleaseMediaPlayer Accounted
      rw [releaseMediaPlayer_eq]
      exact holds_releaseMediaPlayer hitems
    · next hnone =>
      rw [Option.not_isSome_iff_eq_none] at hnone
      exact hitems.perm (List.Perm.of_eq (held_cons_none hnone).symm)

def SourcesSet (a : Answers) : Prop := ∀ n,(a.setSource n).isSome=true

variable {a : Answers} {next : Player π → Player π}

section

variable (hnext : ∀ t,t.audioPlayQueue=s.audioPlayQueue → Accounted L t → Accounted L (next t))
include hnext

theorem accounted_executeOnPlaybackStopped
    (id : Option SourceId) (h : Accounted L s) : Accounted L (s.executeOnPlaybackStopped next id) := by
  unfold executeOnPlaybackStopped
  dsimp only
  split
  · exact h
  · split
    · split
      · rw [handlePlaybackCompleted_eq]
        exact h.keeps ⟨rfl,rfl,rfl⟩
      · split
        · exact hnext _ rfl (h.keeps ⟨rfl,rfl,rfl⟩)
        · exact h.keeps ⟨rfl,rfl,rfl⟩
    · split
      · exact h.keeps (keeps_handlePlaybackCompleted s)
      · exact h

theorem accounted_executeOnPlaybackError
    (id : Option SourceId) (type : ErrorType) (error : String) (h : Accounted L s) :
    Accounted L (s.executeOnPlaybackError next id type error a) := by
  unfold executeOnPlaybackError
  dsimp only
  split
  · refine h.keeps ⟨rfl,rfl,held_replaceF ?_ s.audioPlayQueue⟩
    intro item item' hitem
    split at hitem
    · cases hitem
      rfl
    · cases hitem
  · split
    · apply accounted_executeOnPlaybackStopped
      · exact hnext
      · exact h.keeps ⟨rfl,rfl,rfl⟩
    · apply accounted_executeOnPlaybackStopped
      · exact hnext
      · exact h.keeps ⟨rfl,rfl,rfl⟩

end

theorem accounted_configureCurrent (hset : ¬L.Lossy → setSource.isSome=true)
    (h : Accounted L s) : Accounted L (s.configureCurrent setSource).2 := by
  unfold configureCurrent
  split
  · unfold Accounted
    rw [congrArg audioPlayQueue (configureMediaPlayer_eq s s.currentlyPlaying setSource)]
    exact holds_configureMediaPlayer hset h
  · exact h

/-- The front becomes the current item, and the former's player is given back. -/
theorem accounted_makeCurrent (h : Holds L s.mediaPlayerFactory (s.currentlyPlaying::item::items)) :
    Accounted L ({s with audioPlayQueue := items}.makeCurrent item) := by
  unfold makeCurrent
  rw [releaseMediaPlayer_eq]
  exact holds_releaseMediaPlayer h

theorem accounted_executeOnPlaybackFinished (id : Option SourceId) (h : Accounted L s) :
    Accounted L (s.executeOnPlaybackFinished id) := by
  unfold executeOnPlaybackFinished
  dsimp only
  split
  · exact h
  · split
    · split
      · next hempty =>
        rw [List.isEmpty_iff] at hempty
        rw [releaseMediaPlayer_eq]
        unfold Accounted at h ⊢
        rw [hempty] at h
        rw [hempty]
        refine Holds.perm (holds_releaseMediaPlayer h) (List.Perm.of_eq ?_)
        exact held_cons_none (released_mediaPlayer _)
      · exact h.keeps ⟨rfl,rfl,rfl⟩
    · exact h

/-- The directive is dropped because of the token it expects. -/
def unexpected (s : Player π) (info : Item π) : Prop :=
  info.expectedPreviousToken ≠ "" ∧ s.previousToken≠info.expectedPreviousToken

/-- REPLACE finds its audio in the queue behind another item that has a player. -/
def Overtakes (s : Player π) (info : Item π) : Prop :=
  info.playBehavior≠.enqueue ∧ ∃ front rest,s.audioPlayQueue=front::rest ∧
    info.repeats front=false ∧ front.mediaPlayer.isSome=true ∧ ∃ it∈rest,info.repeats it=true

variable {info : Item π}

/-- The queue is cleared before a REPLACE. Other holders stay as they are. -/
theorem holds_pushItem {others : List (Item π)}
    (h : Holds L s.mediaPlayerFactory (s.currentlyPlaying::s.audioPlayQueue++info::others)) :
    Holds L (s.pushItem info).mediaPlayerFactory
      ((s.pushItem info).currentlyPlaying::(s.pushItem info).audioPlayQueue++others) := by
  unfold pushItem
  split
  case h_3 =>
    rw [cons_append,append_assoc]
    exact h
  all_goals exact holds_clearPlayQueue false h

/-- The directive is put into the queue, and there are no other holders. -/
theorem accounted_pushItem (h : Holds L s.mediaPlayerFactory (s.currentlyPlaying::s.audioPlayQueue++[info])) :
    Accounted L (s.pushItem info) := by
  have hpushed := holds_pushItem h
  rw [append_nil] at hpushed
  exact hpushed

section

variable (hset : ¬L.Lossy → SourcesSet a)
include hset

theorem accounted_executeOnReadyToProvideNextPlayer (h : Accounted L s) :
    Accounted L (s.executeOnReadyToProvideNextPlayer a) := by
  unfold executeOnReadyToProvideNextPlayer
  split
  · split
    · exact h.keeps ⟨rfl,rfl,rfl⟩
    · split
      · exact h
      · next before item rest hspan =>
        have hqueue : before++item::rest=s.audioPlayQueue := by
          rw [span_eq_takeWhile_dropWhile,Prod.mk.injEq] at hspan
          rw [←hspan.1,←hspan.2,takeWhile_append_dropWhile]
        have hitem : Holds L s.mediaPlayerFactory (item::s.currentlyPlaying::(before++rest)) := by
          refine Holds.reorder h ?_
          rw [←hqueue]
          exact (List.Perm.swap _ _ _).trans (perm_middle.symm.cons _)
        have hconfigured := holds_configureMediaPlayer (fun hexact => hset hexact rest.length) hitem
        dsimp only
        rw [congrArg currentlyPlaying (configureMediaPlayer_eq s item (a.setSource rest.length))]
        refine hconfigured.reorder ?_
        exact (perm_middle.cons _).trans (List.Perm.swap _ _ _)
  · exact h

theorem accounted_playCurrent (hnext : ∀ t,t.audioPlayQueue=s.audioPlayQueue → Accounted L t → Accounted L (next t))
    (h : Accounted L s) : Accounted L (s.playCurrent next a) := by
  have hconfigured := accounted_configureCurrent (fun hexact => hset hexact s.audioPlayQueue.length) h
  have hqueue := congrArg audioPlayQueue (configureCurrent_eq s (a.setSource s.audioPlayQueue.length))
  rw [←hqueue] at hnext
  unfold playCurrent
  dsimp only
  generalize s.configureCurrent (a.setSource s.audioPlayQueue.length)=outcome at hconfigured hnext
  split
  · exact hconfigured
  · split
    · exact hconfigured.keeps ⟨rfl,rfl,rfl⟩
    · split
      · exact accounted_executeOnPlaybackError hnext _ _ _ hconfigured
      · split
        · rw [await_eq]
          exact hconfigured.keeps ⟨rfl,rfl,rfl⟩
        · exact accounted_executeOnPlaybackError hnext _ _ _ hconfigured

/-- `playNextItem`, by induction on the items it may come to. -/
theorem accounted_playItems (items : List (Item π)) (s : Player π)
    (hqueue : s.audioPlayQueue=items) (h : Accounted L s) : Accounted L (playItems a items s) := by
  induction items generalizing s with
  | nil =>
    rw [playItems,executeStop_eq]
    exact h.keeps ⟨rfl,rfl,rfl⟩
  | cons item items ih =>
    rw [playItems]
    apply accounted_playCurrent hset
    · intro t ht
      rw [makeCurrent_eq] at ht
      exact ih t ht
    · apply accounted_makeCurrent
      unfold Accounted at h
      rw [hqueue] at h
      exact h

theorem accounted_playNextItem (h : Accounted L s) : Accounted L (s.playNextItem a) :=
  accounted_playItems hset s.audioPlayQueue s rfl h

theorem accounted_executeFinish (h : Accounted L s) : Accounted L (s.executeFinish a) := by
  unfold executeFinish
  dsimp only
  split
  · split
    · rw [handlePlaybackCompleted_eq]
      exact h.keeps ⟨rfl,rfl,rfl⟩
    · exact accounted_playNextItem hset (h.keeps ⟨rfl,rfl,rfl⟩)
  · split
    · rw [handlePlaybackCompleted_eq]
      exact h.keeps ⟨rfl,rfl,rfl⟩
    · exact accounted_playNextItem hset (h.keeps ⟨rfl,rfl,rfl⟩)

/-- It takes over a player, acquires one, or waits for one. -/
theorem accounted_executePrePlay (hfresh : info.Fresh)
    (hfront : ¬L.Lossy → ¬unexpected s info → ¬Overtakes s info) (h : Accounted L s) :
    Accounted L (s.executePrePlay info a) := by
  have hinfo : Holds L s.mediaPlayerFactory (info::s.currentlyPlaying::s.audioPlayQueue) :=
    Holds.perm h (List.Perm.of_eq (held_cons_none hfresh.1))
  have hlast : ∀ {f : Factory π} {info : Item π}, Holds L f (info::s.currentlyPlaying::s.audioPlayQueue) →
        Holds L f (s.currentlyPlaying::s.audioPlayQueue++[info]) :=
    fun hinfo => hinfo.reorder (perm_append_singleton _ _)
  unfold executePrePlay
  split
  · exact h
  · next hexpected =>
    split
    · next info' queue' hover =>
      split at hover
      · cases hover
      · next hreplace =>
        apply accounted_pushItem
        have hmove : (held (s.currentlyPlaying::queue'++[info'])).Perm (held (s.currentlyPlaying::info'::queue')) :=
          held_perm ((perm_append_singleton info' queue').cons _)
        obtain ⟨front,rest,hqueue,⟨-,hheld⟩|⟨hno,hbehind,hheld⟩⟩ := handOver_cases hover
        · exact Holds.perm h (hmove.trans (held_cons_perm hheld))
        · have hghost : Holds L s.mediaPlayerFactory (front::s.currentlyPlaying::info'::queue') :=
            Holds.perm h ((held_perm (List.Perm.swap _ _ _)).trans (held_cons_perm hheld))
          refine Holds.perm ?_ hmove
          refine hghost.drop ?_
          intro hexact
          by_contra hsome
          rw [←ne_eq,Option.ne_none_iff_isSome] at hsome
          exact hfront hexact hexpected ⟨hreplace,front,rest,hqueue,hno,hsome,hbehind⟩
    · split
      · have hconfigured := holds_configureMediaPlayer (fun hexact => hset hexact s.audioPlayQueue.length) hinfo
        have hframe := configureMediaPlayer_eq s info (a.setSource s.audioPlayQueue.length)
        have hfailed := @configureMediaPlayer_failed _ s info (a.setSource s.audioPlayQueue.length)
        generalize s.configureMediaPlayer info (a.setSource s.audioPlayQueue.length)=outcome
          at hconfigured hframe hfailed
        split
        · unfold Accounted
          rw [congrArg currentlyPlaying hframe,congrArg audioPlayQueue hframe]
          exact hconfigured.perm (List.Perm.of_eq (held_cons_none (hfailed rfl)).symm)
        · apply accounted_pushItem
          rw [congrArg currentlyPlaying hframe,congrArg audioPlayQueue hframe]
          exact hlast hconfigured
      · exact accounted_pushItem (hlast hinfo)

theorem accounted_executeOnFocusChanged (newFocus : FocusState) (behavior : MixingBehavior) (h : Accounted L s) :
    Accounted L (s.executeOnFocusChanged newFocus behavior a) := by
  unfold executeOnFocusChanged
  split
  · exact h
  · have hfocus : Accounted L {s with focus := newFocus,mixingBehavior := behavior} :=
      h.keeps ⟨rfl,rfl,rfl⟩
    generalize {s with focus := newFocus,mixingBehavior := behavior}=u at hfocus
    cases newFocus with
    | foreground =>
      unfold onForeground
      dsimp only
      split
      · split
        · rw [await_eq]
          exact hfocus.keeps ⟨rfl,rfl,rfl⟩
        · exact hfocus.keeps ⟨rfl,rfl,rfl⟩
      · split
        case h_4 =>
          split
          · exact hfocus.keeps ⟨rfl,rfl,rfl⟩
          · exact hfocus.keeps ⟨rfl,rfl,rfl⟩
        case h_5 => exact hfocus.keeps ⟨rfl,rfl,rfl⟩
        case h_6 => exact hfocus.keeps ⟨rfl,rfl,rfl⟩
        all_goals
          split
          · exact accounted_playNextItem hset (hfocus.keeps ⟨rfl,rfl,rfl⟩)
          · exact hfocus.keeps ⟨rfl,rfl,rfl⟩
    | background =>
      unfold onBackground
      dsimp only
      split
      · exact hfocus.keeps ⟨rfl,rfl,rfl⟩
      · split
        · exact hfocus.keeps ⟨rfl,rfl,rfl⟩
        · split
          · exact hfocus.keeps ⟨rfl,rfl,rfl⟩
          · split
            · exact accounted_playNextItem hset (hfocus.keeps ⟨rfl,rfl,rfl⟩)
            · exact hfocus.keeps ⟨rfl,rfl,rfl⟩
    | none =>
      change Accounted L (u.onNone a)
      unfold onNone
      split
      · exact (accounted_clearPlayQueue false hfocus).keeps (keeps_executeStop _ _ _)
      · exact hfocus

end

/-- Sources are set, and none overtakes an item with a player. -/
def Allowed (s : Player π) : PlayerTask π → Prop
  | .preHandlePlay info a => SourcesSet a ∧ (¬unexpected s info → ¬Overtakes s info)
  | .acquired _ _ a | .released _ a | .focusChanged _ _ a | .playbackStopped _ a | .playbackError _ _ _ a
  | .readyToProvideNextPlayer a | .finish a => SourcesSet a
  | _ => True

/-- A task keeps the ledger, and if the ledger is exact, a task that is allowed does. -/
theorem accounted_perform {task : PlayerTask π} (hpossible : Possible s task)
    (hallowed : ¬L.Lossy → Allowed s task) (h : Accounted L s) : Accounted L (s.perform task) := by
  cases task with
  | preHandlePlay info a =>
    change Accounted L (s.preHandlePlay info a)
    unfold preHandlePlay
    split
    · exact h
    · exact accounted_executePrePlay (fun hexact => (hallowed hexact).1) hpossible (fun hexact => (hallowed hexact).2) h
  | play messageId a => exact h.keeps (keeps_executePlay s messageId a)
  | stop a => exact h.keeps (keeps_executeStop s false a)
  | clearQueue clearBehavior a =>
    cases clearBehavior with
    | clearEnqueued =>
      have hcleared := accounted_clearPlayQueue true h
      exact hcleared.keeps ⟨rfl,rfl,rfl⟩
    | clearAll =>
      have hcleared := accounted_clearPlayQueue false (h.keeps (keeps_executeStop s false a))
      exact hcleared.keeps ⟨rfl,rfl,rfl⟩
  | cancel messageId => exact accounted_executeCancel messageId h
  | deregistered a => exact accounted_clearPlayQueue false (h.keeps (keeps_executeStop s false a))
  | acquired =>
    apply accounted_executeOnFocusChanged hallowed
    exact h.keeps ⟨rfl,rfl,rfl⟩
  | released =>
    change Accounted L (if s.focus=.none then _ else _)
    split
    · exact h.keeps ⟨rfl,rfl,rfl⟩
    · apply accounted_executeOnFocusChanged hallowed
      exact h.keeps ⟨rfl,rfl,rfl⟩
  | focusChanged => exact accounted_executeOnFocusChanged hallowed _ _ h
  | playbackStarted id =>
    have hdischarged : Accounted L (s.discharge id .started) := h.keeps ⟨rfl,rfl,rfl⟩
    exact hdischarged.keeps (keeps_executeOnPlaybackStarted _ _ _)
  | playbackStopped id a =>
    have hdischarged : Accounted L (s.dischargeAll id) := h.keeps ⟨rfl,rfl,rfl⟩
    have hnext : ∀ t : Player π,t.audioPlayQueue=(s.dischargeAll id).audioPlayQueue →
        Accounted L t → Accounted L (t.playNextItem a) :=
      fun _ _ ht => accounted_playNextItem hallowed ht
    exact accounted_executeOnPlaybackStopped hnext _ hdischarged
  | playbackFinished => exact accounted_executeOnPlaybackFinished _ h
  | playbackError id type error a =>
    have hdischarged : Accounted L (s.dischargeAll id) := h.keeps ⟨rfl,rfl,rfl⟩
    have hnext : ∀ t : Player π,t.audioPlayQueue=(s.dischargeAll id).audioPlayQueue →
        Accounted L t → Accounted L (t.playNextItem a) :=
      fun _ _ ht => accounted_playNextItem hallowed ht
    exact accounted_executeOnPlaybackError hnext _ _ _ hdischarged
  | playbackPaused => exact h.keeps (keeps_executeOnPlaybackPaused s _)
  | playbackResumed => exact h.keeps (keeps_executeOnPlaybackResumed s _)
  | bufferUnderrun => exact h.keeps (keeps_executeOnBufferUnderrun s _)
  | bufferRefilled => exact h.keeps (keeps_executeOnBufferRefilled s _)
  | seeked => exact h.keeps (keeps_executeOnSeeked s _)
  | bufferingComplete => exact h.keeps (keeps_executeOnBufferingComplete s _)
  | readyToProvideNextPlayer => exact accounted_executeOnReadyToProvideNextPlayer hallowed h
  | finish => exact accounted_executeFinish hallowed h
  | localOperation op a => exact h.keeps (keeps_executeLocalOperation s op a)

/-- The players in use are those the current item and the queue hold, once each. -/
def NoneLeakedOrShared (pool : List π) (s : Player π) : Prop :=
  (held (s.currentlyPlaying::s.audioPlayQueue)).Perm s.mediaPlayerFactory.inUse ∧
    (pool.Nodup → (held (s.currentlyPlaying::s.audioPlayQueue)).Nodup)

/-- Over every run in which the sources can be set and no item with a player is overtaken, no
player is leaked and none is shared. -/
theorem players_held_once {pool : List π} {flag : Bool} {tasks : List (PlayerTask π)} {s : Player π}
    (run : Run (Guarded Step Allowed) (create pool flag) tasks s) : NoneLeakedOrShared pool s := by
  have haccounted : Accounted (.exact pool) s := by
    refine run.invariant (Accounted (.exact pool)) ?_ ?_
    · exact ⟨List.Perm.refl _,List.Perm.of_eq (append_nil pool)⟩
    · rintro s task _ hs ⟨hallowed,hpossible,rfl⟩
      exact accounted_perform hpossible (fun _ => hallowed) hs
  refine ⟨haccounted.1,?_⟩
  intro hpool
  have hplayers : s.mediaPlayerFactory.players.Nodup := haccounted.2.nodup_iff.mpr hpool
  have hinUse : s.mediaPlayerFactory.inUse.Nodup := (nodup_append.mp hplayers).2.1
  exact haccounted.1.nodup_iff.mpr hinUse

/-- One track started, another buffered: two players, two holders. -/
theorem players_held_once_two_tracks : ∃ tasks s,Run (Guarded Step Allowed) (create [0,1] false) tasks s ∧
      held (s.currentlyPlaying::s.audioPlayQueue)=[0,1] ∧ NoneLeakedOrShared [0,1] s := by
  have hset : ∀ id,SourcesSet (.success id) := fun _ _ => rfl
  have hempty : ∀ (s : Player ℕ) info,s.audioPlayQueue=[] → ¬unexpected s info → ¬Overtakes s info := by
    rintro s info hqueue - ⟨-,front,rest,hfront,-⟩
    rw [hqueue] at hfront
    cases hfront
  have run := (@Run.refl _ _ (Guarded Step Allowed) (create [0,1] false)).allow
    (step_perform (.preHandlePlay (Item.create "first") (.success 1)) ⟨rfl,rfl,rfl,rfl⟩)
    ⟨hset 1,hempty _ _ rfl⟩
  have run := run.allow (step_perform (.play "first" (.success 1)) trivial) trivial
  have run := run.allow (step_perform (.acquired false .primary (.success 1)) rfl) (hset 1)
  have run := run.allow (step_perform (.preHandlePlay (Item.create "second") (.success 2)) ⟨rfl,rfl,rfl,rfl⟩)
    ⟨hset 2,hempty _ _ (by decide)⟩
  exact ⟨_,_,run,by decide,players_held_once run⟩

/-- A player whose source could not be set is in use and nobody holds it. -/
theorem unset_source_leaks_player :
    ¬∀ (pool : List ℕ) flag tasks s,Run Step (create pool flag) tasks s → NoneLeakedOrShared pool s := by
  intro hall
  have run := (@Run.refl _ _ Step (create [0] false)).snoc
    (step_perform (.preHandlePlay (Item.create "track") {Answers.success 1 with setSource := fun _ => none})
      ⟨rfl,rfl,rfl,rfl⟩)
  have hlength := (hall _ _ _ _ run).1.length_eq
  revert hlength
  decide +kernel

end AlexaClientSDK.MediaPlayerAccounting
