import Mathlib.Data.List.Count
import AlexaClientSDK.LabelledRuns
import AlexaClientSDK.NotificationRenderer

/-!
# Every rendering of a notification is finished

A call of `renderNotification` that returns true should be followed by one `onNotificationRenderingFinished`, and others
leave the state. The table of `setStateLocked` refuses to go back to `IDLE`, so a channel that is not acquired, a
default sound that cannot be played and a focus with which nothing is played leave the renderer rendering. Otherwise one
thread at a time has the rendering in its hands.
-/

namespace AlexaClientSDK.NotificationRendering

open List LabelledRuns NotificationRenderer Renderer Activity

section

variable (r : Renderer)

/-- No thread has anything to do, and no source is playing. -/
def Quiescent : Prop := r.pending=[] ∧ r.playing=[]

/-- Once finished; refusals leave the state, and the next one is taken. -/
structure Completes (r : Renderer) : Prop where
  once : ∀ number,r.finished.count number≤1
  only : ∀ number∈r.finished,number∈r.accepted
  /-- A call that returned false has left the state as it was. -/
  unchanged : ∀ call∈r.refused,call.2=call.1
  /-- The accepted is finished, and the next call not refused. -/
  complete : Quiescent r → r.state=.idle ∧ (∀ number∈r.accepted,r.finished.count number=1) ∧
    (r.renderNotification true).refused=r.refused

/-- Acquired unless cancelled, played at its focus, and something can be. -/
def Served : Event → Prop
  | .acquireChannel _ acquires => acquires=true ∨ r.state=.cancelling
  | .focusGiven _ behavior => r.focusState=.none ∧ (behavior=.undefined ∨ behavior=.primary)
  | .executePlay answers => (r.sourceId≠none ∧ answers.play=true) ∨
      r.state=.renderingPreferred ∧ answers.setSource=true ∧ answers.playDefault=true
  | _ => True

def isWorking : State → Bool
  | .renderingPreferred | .renderingDefault | .cancelling => true
  | _ => false

inductive Holder (r : Renderer) : Prop
  | thread (activity : Activity) (known : activity=.focus ∨ activity=.play ∨ activity=.fallback ∨
      activity=.release) (pending : r.pending=[activity]) (playing : r.playing=[])
  | player (sourceId : ℕ) (pending : r.pending=[]) (playing : r.playing=[sourceId]) (source : r.sourceId=some sourceId)

def Settled : Prop := ∀ number∈r.accepted,r.finished.count number=1

/-- Every accepted rendering is finished but the last. -/
def Unsettled : Prop :=
  r.renderings∈r.accepted ∧ r.renderings∉r.finished ∧
    ∀ number∈r.accepted,number≠r.renderings → r.finished.count number=1

end

inductive Phase (r : Renderer) : Prop
  | idle (state : r.state=.idle) (pending : r.pending=[]) (playing : r.playing=[]) (settled : Settled r)
  | calling (state : r.state=.renderingPreferred ∨ r.state=.cancelling)
      (pending : r.pending=[.call r.renderings]) (playing : r.playing=[]) (settled : Settled r)
      (fresh : r.renderings∉r.accepted)
  | working (state : isWorking r.state=true) (holder : Holder r) (unsettled : Unsettled r)
  | notifying (state : r.state=.notifying) (pending : r.pending=[.notify]) (playing : r.playing=[])
      (unsettled : Unsettled r)
  | told (state : r.state=.notifying) (pending : r.pending=[.settle]) (playing : r.playing=[]) (settled : Settled r)

/-- What holds between steps. -/
structure Inv (r : Renderer) : Prop where
  phase : Phase r
  numbered : ∀ number∈r.accepted,number≤r.renderings
  only : ∀ number∈r.finished,number∈r.accepted
  /-- A call that returned false has left the state as it was. -/
  unchanged : ∀ call∈r.refused,call.2=call.1

variable {r r' : Renderer} {number : ℕ}

theorem Phase.count_le_one (h : Phase r) (hnumber : number∈r.accepted) : r.finished.count number≤1 := by
  have hunsettled : Unsettled r → r.finished.count number≤1 := by
    rintro ⟨_,hnot,hothers⟩
    by_cases heq : number=r.renderings
    · rw [heq,count_eq_zero_of_not_mem hnot]
      exact Nat.zero_le _
    · exact Nat.le_of_eq (hothers number hnumber heq)
  cases h with
  | idle _ _ _ settled | calling _ _ _ settled | told _ _ _ settled => exact Nat.le_of_eq (settled number hnumber)
  | working _ _ unsettled | notifying _ _ _ unsettled => exact hunsettled unsettled

theorem Inv.completes (h : Inv r) : Completes r := by
  refine ⟨?_,h.only,h.unchanged,?_⟩
  · intro number
    by_cases hmem : number∈r.finished
    · exact h.phase.count_le_one (h.only number hmem)
    · rw [count_eq_zero_of_not_mem hmem]
      exact Nat.zero_le _
  · rintro ⟨hpending,hplaying⟩
    cases h.phase with
    | idle state _ _ settled =>
      refine ⟨state,settled,?_⟩
      have haccepts : canSetState r.state .renderingPreferred=true := by
        rw [state]
        rfl
      unfold renderNotification
      rw [if_pos ⟨rfl,haccepts⟩]
      rfl
    | calling _ pending | notifying _ pending | told _ pending =>
      rw [pending] at hpending
      cases hpending
    | working _ holder =>
      cases holder with
      | thread activity _ pending =>
        rw [pending] at hpending
        cases hpending
      | player sourceId _ playing =>
        rw [playing] at hplaying
        cases hplaying

/-- The calls that the properties count. -/
def tally (r : Renderer) := (r.renderings,r.accepted,r.finished)

theorem settled_congr (hsame : tally r'=tally r) (h : Settled r) : Settled r' := by
  simp only [tally,Prod.mk.injEq] at hsame
  unfold Settled
  rw [hsame.2.1,hsame.2.2]
  exact h

theorem unsettled_congr (hsame : tally r'=tally r) (h : Unsettled r) : Unsettled r' := by
  simp only [tally,Prod.mk.injEq] at hsame
  unfold Unsettled
  rw [hsame.1,hsame.2.1,hsame.2.2]
  exact h

theorem Phase.congr (h : Phase r) (hstate : r'.state=r.state) (hpending : r'.pending=r.pending)
    (hplaying : r'.playing=r.playing) (hsource : r'.sourceId=r.sourceId) (hsame : tally r'=tally r) : Phase r' := by
  have hsettled := settled_congr hsame
  have hunsettled := unsettled_congr hsame
  simp only [tally,Prod.mk.injEq] at hsame
  obtain ⟨hrenderings,haccepted,-⟩ := hsame
  cases h with
  | idle state pending playing settled =>
    exact .idle (hstate.trans state) (hpending.trans pending) (hplaying.trans playing) (hsettled settled)
  | calling state pending playing settled fresh =>
    refine .calling ?_ ?_ (hplaying.trans playing) (hsettled settled) ?_
    · rw [hstate]
      exact state
    · rw [hpending,hrenderings]
      exact pending
    · rw [hrenderings,haccepted]
      exact fresh
  | working state holder unsettled =>
    refine .working ?_ ?_ (hunsettled unsettled)
    · rw [hstate]
      exact state
    · cases holder with
      | thread activity known pending playing =>
        exact .thread activity known (hpending.trans pending) (hplaying.trans playing)
      | player sourceId pending playing source =>
        exact .player sourceId (hpending.trans pending) (hplaying.trans playing) (hsource.trans source)
  | notifying state pending playing unsettled =>
    exact .notifying (hstate.trans state) (hpending.trans pending) (hplaying.trans playing) (hunsettled unsettled)
  | told state pending playing settled =>
    exact .told (hstate.trans state) (hpending.trans pending) (hplaying.trans playing) (hsettled settled)

/-- A step that neither returns from a call nor tells the observers. -/
theorem Inv.keep (h : Inv r) (hphase : Phase r') (hsame : tally r'=tally r) (hrefused : r'.refused=r.refused) :
    Inv r' := by
  simp only [tally,Prod.mk.injEq] at hsame
  obtain ⟨hrenderings,haccepted,hfinished⟩ := hsame
  refine ⟨hphase,?_,?_,?_⟩
  · rw [haccepted,hrenderings]
    exact h.numbered
  · rw [hfinished,haccepted]
    exact h.only
  · rw [hrefused]
    exact h.unchanged

theorem Phase.of_call (h : Phase r) (hmem : call number∈r.pending) :
    number=r.renderings ∧ (r.state=.renderingPreferred ∨ r.state=.cancelling) ∧
      r.pending=[.call r.renderings] ∧ r.playing=[] ∧ Settled r ∧ r.renderings∉r.accepted := by
  cases h with
  | calling state pending playing settled fresh =>
    rw [pending] at hmem
    have heq := mem_singleton.mp hmem
    cases heq
    exact ⟨rfl,state,pending,playing,settled,fresh⟩
  | working _ holder =>
    cases holder with
    | thread activity known pending =>
      rw [pending] at hmem
      have heq := mem_singleton.mp hmem
      rw [←heq] at known
      simp at known
    | player _ pending => simp [pending] at hmem
  | _ => simp_all

variable {activity : Activity}

theorem Phase.of_thread (h : Phase r) (hmem : activity∈r.pending)
    (hknown : activity=.focus ∨ activity=.play ∨ activity=.fallback ∨ activity=.release) :
    isWorking r.state=true ∧ r.pending=[activity] ∧ r.playing=[] ∧ Unsettled r := by
  cases h with
  | working state holder unsettled =>
    cases holder with
    | thread activity' _ pending playing =>
      rw [pending] at hmem
      rw [mem_singleton.mp hmem]
      exact ⟨state,pending,playing,unsettled⟩
    | player _ pending =>
      rw [pending] at hmem
      cases hmem
  | idle _ pending =>
    rw [pending] at hmem
    cases hmem
  | calling _ pending | notifying _ pending | told _ pending =>
    rw [pending] at hmem
    rw [mem_singleton.mp hmem] at hknown
    simp at hknown

variable {sourceId : ℕ}

theorem Phase.of_playing (h : Phase r) (hmem : sourceId∈r.playing) :
    isWorking r.state=true ∧ r.pending=[] ∧ r.playing=[sourceId] ∧ r.sourceId=some sourceId ∧ Unsettled r := by
  cases h with
  | working state holder unsettled =>
    cases holder with
    | thread _ _ _ playing =>
      rw [playing] at hmem
      cases hmem
    | player sourceId' pending playing source =>
      rw [playing] at hmem
      rw [mem_singleton.mp hmem]
      exact ⟨state,pending,playing,source,unsettled⟩
  | idle _ _ playing | calling _ _ playing | notifying _ _ playing | told _ _ playing =>
    rw [playing] at hmem
    cases hmem

theorem Phase.of_notify (h : Phase r) (hmem : notify∈r.pending) :
    r.state=.notifying ∧ r.pending=[.notify] ∧ r.playing=[] ∧ Unsettled r := by
  cases h with
  | notifying state pending playing unsettled => exact ⟨state,pending,playing,unsettled⟩
  | working _ holder =>
    cases holder with
    | thread activity known pending =>
      rw [pending] at hmem
      rw [←mem_singleton.mp hmem] at known
      simp at known
    | player _ pending => simp [pending] at hmem
  | _ => simp_all

theorem Phase.of_settle (h : Phase r) (hmem : settle∈r.pending) :
    r.state=.notifying ∧ r.pending=[.settle] ∧ r.playing=[] ∧ Settled r := by
  cases h with
  | told state pending playing settled => exact ⟨state,pending,playing,settled⟩
  | working _ holder =>
    cases holder with
    | thread activity known pending =>
      rw [pending] at hmem
      rw [←mem_singleton.mp hmem] at known
      simp at known
    | player _ pending => simp [pending] at hmem
  | _ => simp_all

theorem pending_take (hpending : r.pending=[activity]) : (r.take activity).pending=[] := by
  unfold Renderer.take
  rw [hpending,erase_cons_head]

theorem pending_submit (hpending : r.pending=[]) (activity : Activity) : (r.submit activity).pending=[activity] := by
  unfold submit
  rw [hpending]
  rfl

theorem setState_of_can {newState : State} (hcan : canSetState r.state newState=true) :
    r.setState newState={r with state := newState} := by
  unfold setState
  rw [if_pos hcan]

section

variable (h : Inv r)
include h

theorem Inv.hand_on (hunsettled : Unsettled r)
    (hknown : activity=.focus ∨ activity=.play ∨ activity=.fallback ∨ activity=.release)
    (hworking : isWorking r'.state=true) (hpending : r'.pending=[activity]) (hplaying : r'.playing=[])
    (hsame : tally r'=tally r) (hrefused : r'.refused=r.refused) : Inv r' :=
  h.keep (.working hworking (.thread activity hknown hpending hplaying) (unsettled_congr hsame hunsettled)) hsame hrefused

theorem Inv.hand_to_player (hunsettled : Unsettled r)
    (hworking : isWorking r'.state=true) (hpending : r'.pending=[]) (hplaying : r'.playing=[sourceId])
    (hsource : r'.sourceId=some sourceId) (hsame : tally r'=tally r) (hrefused : r'.refused=r.refused) : Inv r' :=
  h.keep (.working hworking (.player sourceId hpending hplaying hsource) (unsettled_congr hsame hunsettled)) hsame hrefused

theorem inv_renderNotification (audioFactory : Bool) : Inv (r.renderNotification audioFactory) := by
  unfold renderNotification
  split
  · rename_i hbegins
    have hidle : r.state=.idle := by
      cases hstate : r.state with
      | idle => rfl
      | _ =>
        rw [hstate] at hbegins
        cases hbegins.2
    have hfresh : r.renderings+1∉r.accepted := by
      intro hmem
      exact Nat.not_succ_le_self _ (h.numbered _ hmem)
    have hphase : r.pending=[] ∧ r.playing=[] ∧ Settled r := by
      cases h.phase with
      | idle _ pending playing settled => exact ⟨pending,playing,settled⟩
      | calling state =>
        rw [hidle] at state
        simp at state
      | working state | notifying state | told state =>
        rw [hidle] at state
        cases state
    obtain ⟨hpending,hplaying,hsettled⟩ := hphase
    refine ⟨.calling (.inl rfl) (pending_submit hpending _) hplaying hsettled hfresh,?_,h.only,h.unchanged⟩
    intro number hnumber
    exact Nat.le_succ_of_le (h.numbered number hnumber)
  · refine ⟨h.phase.congr rfl rfl rfl rfl rfl,h.numbered,h.only,?_⟩
    intro call hcall
    rcases mem_append.mp hcall with hcall|hcall
    · exact h.unchanged call hcall
    · rw [mem_singleton.mp hcall]

theorem Inv.accept (hsettled : Settled r) (hfresh : r.renderings∉r.accepted)
    (hworking : isWorking r'.state=true) (hpending : r'.pending=[.focus]) (hplaying : r'.playing=[])
    (hrenderings : r'.renderings=r.renderings) (haccepted : r'.accepted=r.accepted++[r.renderings])
    (hrefused : r'.refused=r.refused) (hfinished : r'.finished=r.finished) : Inv r' := by
  have hunsettled : Unsettled r' := by
    unfold Unsettled
    rw [hrenderings,haccepted,hfinished]
    refine ⟨mem_concat_self,fun hmem => hfresh (h.only _ hmem),?_⟩
    intro number hnumber hne
    rcases mem_append.mp hnumber with hnumber|hnumber
    · exact hsettled number hnumber
    · exact absurd (mem_singleton.mp hnumber) hne
  refine ⟨.working hworking (.thread .focus (.inl rfl) hpending hplaying) hunsettled,?_,?_,?_⟩
  · rw [haccepted,hrenderings]
    intro number hnumber
    rcases mem_append.mp hnumber with hnumber|hnumber
    · exact h.numbered number hnumber
    · exact Nat.le_of_eq (mem_singleton.mp hnumber)
  · rw [hfinished,haccepted]
    intro number hnumber
    exact mem_append_left _ (h.only number hnumber)
  · rw [hrefused]
    exact h.unchanged

/-- A call that was cancelled returns false, and the renderer is idle again. -/
theorem Inv.refuse (hsettled : Settled r) (hstate : r'.state=.idle)
    (hpending : r'.pending=[]) (hplaying : r'.playing=[]) (hrenderings : r'.renderings=r.renderings)
    (haccepted : r'.accepted=r.accepted) (hrefused : r'.refused=r.refused++[(.idle,.idle)])
    (hfinished : r'.finished=r.finished) : Inv r' := by
  have hsettled' : Settled r' := by
    unfold Settled
    rw [haccepted,hfinished]
    exact hsettled
  refine ⟨.idle hstate hpending hplaying hsettled',?_,?_,?_⟩
  · rw [haccepted,hrenderings]
    exact h.numbered
  · rw [hfinished,haccepted]
    exact h.only
  · rw [hrefused]
    intro call hcall
    rcases mem_append.mp hcall with hcall|hcall
    · exact h.unchanged call hcall
    · rw [mem_singleton.mp hcall]

theorem inv_acquireChannel {setSource acquires : Bool}
    (calls : call number∈r.pending) (hserved : acquires=true ∨ r.state=.cancelling) :
    Inv ((r.take (.call number)).acquireChannel number setSource acquires) := by
  obtain ⟨hnumber,hstate,hpending,hplaying,hsettled,hfresh⟩ := h.phase.of_call calls
  rw [←hnumber] at hpending
  have htaken := pending_take hpending
  have hworking : isWorking r.state=true := by
    rcases hstate with hstate|hstate
    · rw [hstate]
      rfl
    · rw [hstate]
      rfl
  have hcancelled : acquires≠true → canSetState r.state .idle=true := by
    intro hacquires
    rcases hserved with hserved|hserved
    · exact absurd hserved hacquires
    · rw [hserved]
      rfl
  unfold Renderer.acquireChannel Renderer.setSource
  by_cases hacquires : acquires=true
  · rw [if_pos hacquires]
    split
    · exact h.accept hsettled hfresh hworking (pending_submit htaken _) hplaying rfl (by rw [hnumber]; rfl)
        rfl rfl
    · exact h.accept hsettled hfresh hworking (pending_submit htaken _) hplaying rfl (by rw [hnumber]; rfl)
        rfl rfl
  · rw [if_neg hacquires]
    have hidle := hcancelled hacquires
    split
    · rw [setState_of_can]
      · exact h.refuse hsettled rfl htaken hplaying rfl rfl rfl rfl
      · exact hidle
    · rw [setState_of_can]
      · exact h.refuse hsettled rfl htaken hplaying rfl rfl rfl rfl
      · exact hidle

theorem inv_cancelNotificationRendering : Inv r.cancelNotificationRendering := by
  unfold cancelNotificationRendering setState
  split
  · rename_i hcan
    refine h.keep ?_ rfl rfl
    cases h.phase with
    | idle state | notifying state | told state =>
      rw [state] at hcan
      cases hcan
    | calling _ pending playing settled fresh => exact .calling (.inr rfl) pending playing settled fresh
    | working _ holder unsettled =>
      refine .working rfl ?_ unsettled
      cases holder with
      | thread activity known pending playing => exact .thread activity known pending playing
      | player sourceId pending playing source => exact .player sourceId pending playing source
  · exact h

variable {newFocus : FocusChannel.FocusState} {behavior : FocusChannel.MixingBehavior}

theorem inv_focusGiven (acquired : focus∈r.pending)
    (gives : newFocus≠.none) (hserved : r.focusState=.none ∧ (behavior=.undefined ∨ behavior=.primary)) :
    Inv ((r.take .focus).onFocusChanged newFocus behavior) := by
  obtain ⟨hworking,hpending,hplaying,hunsettled⟩ := h.phase.of_thread acquired (.inl rfl)
  have hstarts : ¬((newFocus=.none ∨ (r.take .focus).focusState≠.none) ∨
      ¬(behavior=.undefined ∨ behavior=.primary)) := by
    rintro ((hnone|hhad)|hbehavior)
    · exact gives hnone
    · exact hhad hserved.1
    · exact hbehavior hserved.2
  unfold onFocusChanged
  rw [if_neg hstarts]
  exact h.hand_on hunsettled (.inr (.inl rfl)) hworking (pending_submit (pending_take hpending) _) hplaying
      rfl rfl

theorem inv_focusChanged (had : newFocus=.none ∨ r.focusState≠.none) : Inv (r.onFocusChanged newFocus behavior) := by
  unfold onFocusChanged
  rw [if_pos (.inl had)]
  exact h.keep (h.phase.congr rfl rfl rfl rfl rfl) rfl rfl

theorem inv_executePlay {answers : Answers} (queued : play∈r.pending) (hserved : (r.sourceId≠none ∧ answers.play=true) ∨
      r.state=.renderingPreferred ∧ answers.setSource=true ∧ answers.playDefault=true) :
    Inv ((r.take .play).executePlay answers) := by
  obtain ⟨hworking,hpending,hplaying,hunsettled⟩ := h.phase.of_thread queued (.inr (.inl rfl))
  have htaken := pending_take hpending
  by_cases hplays : r.sourceId≠none ∧ answers.play=true
  · obtain ⟨sourceId,hsource⟩ := Option.ne_none_iff_exists'.mp hplays.1
    have hplays' : (r.take .play).sourceId≠none ∧ answers.play=true := hplays
    unfold Renderer.executePlay
    rw [if_pos hplays']
    refine h.hand_to_player hunsettled hworking htaken ?_ hsource rfl rfl
    unfold Renderer.playSource Renderer.take
    rw [hplaying,hsource]
    rfl
  · obtain ⟨hstate,hset,hdefault⟩ := hserved.resolve_left hplays
    have hplays' : ¬((r.take .play).sourceId≠none ∧ answers.play=true) := hplays
    have hcan : canSetState (r.take .play).state .renderingDefault=true := by
      have hstate' : (r.take .play).state=.renderingPreferred := hstate
      rw [hstate']
      rfl
    unfold Renderer.executePlay Renderer.setSource
    rw [if_neg hplays',if_pos hcan,if_pos hset]
    rw [if_pos ⟨Option.some_ne_none _,hdefault⟩]
    refine h.hand_to_player hunsettled rfl htaken ?_ rfl rfl rfl
    unfold Renderer.playSource Renderer.take
    rw [hplaying]
    rfl

theorem inv_playbackEnded (plays : sourceId∈r.playing) :
    Inv (({r with playing := r.playing.erase sourceId} : Renderer).onPlaybackEnded sourceId) := by
  obtain ⟨hworking,hpending,hplaying,hsource,hunsettled⟩ := h.phase.of_playing plays
  have hdone : r.playing.erase sourceId=[] := by
    rw [hplaying,erase_cons_head]
  unfold onPlaybackEnded
  rw [if_pos hsource]
  exact h.hand_on hunsettled (.inr (.inr (.inr rfl))) hworking (pending_submit hpending _) hdone rfl rfl

theorem inv_playbackError (plays : sourceId∈r.playing) :
    Inv (({r with playing := r.playing.erase sourceId} : Renderer).onPlaybackError sourceId) := by
  obtain ⟨hworking,hpending,hplaying,hsource,hunsettled⟩ := h.phase.of_playing plays
  have hdone : r.playing.erase sourceId=[] := by
    rw [hplaying,erase_cons_head]
  unfold onPlaybackError
  rw [if_pos hsource]
  split
  · rename_i hstate
    rw [hstate] at hworking
    cases hworking
  · rename_i hstate
    rw [hstate] at hworking
    cases hworking
  · exact h.hand_on hunsettled (.inr (.inr (.inr rfl))) hworking (pending_submit hpending _) hdone rfl rfl
  · exact h.hand_on hunsettled (.inr (.inr (.inr rfl))) hworking (pending_submit hpending _) hdone rfl rfl
  · exact h.hand_on hunsettled (.inr (.inr (.inl rfl))) rfl (pending_submit hpending _) hdone rfl rfl

theorem inv_runFallback {answers : Answers} (started : fallback∈r.pending) :
    Inv ((r.take .fallback).runFallback answers) := by
  obtain ⟨hworking,hpending,hplaying,hunsettled⟩ := h.phase.of_thread started (.inr (.inr (.inl rfl)))
  have htaken := pending_take hpending
  unfold Renderer.runFallback Renderer.setSource
  by_cases hset : answers.setSource=true
  · rw [if_pos hset]
    dsimp only
    split
    · refine h.hand_to_player hunsettled hworking htaken ?_ rfl rfl rfl
      unfold Renderer.playSource Renderer.take
      rw [hplaying]
      rfl
    · exact h.hand_on hunsettled (.inr (.inr (.inr rfl))) hworking (pending_submit htaken _) hplaying rfl rfl
  · rw [if_neg hset]
    rw [if_neg (fun hsource => hsource.1 rfl)]
    exact h.hand_on hunsettled (.inr (.inr (.inr rfl))) hworking (pending_submit htaken _) hplaying rfl rfl

theorem inv_channelReleased (waits : release∈r.pending) : Inv (r.take .release).onChannelReleased := by
  obtain ⟨hworking,hpending,hplaying,hunsettled⟩ := h.phase.of_thread waits (.inr (.inr (.inr rfl)))
  have hcan : canSetState (r.take .release).state .notifying=true := by
    have hsame : (r.take .release).state=r.state := rfl
    rw [hsame]
    cases hstate : r.state with
    | idle | notifying =>
      rw [hstate] at hworking
      cases hworking
    | _ => rfl
  unfold onChannelReleased
  rw [if_pos hcan]
  refine h.keep ?_ rfl rfl
  exact .notifying rfl (pending_submit (pending_take hpending) _) hplaying hunsettled

theorem inv_notifyObservers (waits : notify∈r.pending) : Inv (r.take .notify).notifyObservers := by
  obtain ⟨hstate,hpending,hplaying,haccepted,hnot,hothers⟩ := h.phase.of_notify waits
  have hsettled : ∀ number∈r.accepted,(r.finished++[r.renderings]).count number=1 := by
    intro number hnumber
    rw [count_append,count_singleton]
    by_cases heq : number=r.renderings
    · rw [heq,count_eq_zero_of_not_mem hnot]
      simp
    · rw [hothers number hnumber heq,if_neg]
      simpa using fun hsame : r.renderings=number => heq hsame.symm
  refine ⟨.told hstate (pending_submit (pending_take hpending) _) hplaying hsettled,h.numbered,?_,h.unchanged⟩
  intro number hnumber
  rcases mem_append.mp hnumber with hnumber|hnumber
  · exact h.only number hnumber
  · rw [mem_singleton.mp hnumber]
    exact haccepted

theorem inv_settle (waits : settle∈r.pending) : Inv ((r.take .settle).setState .idle) := by
  obtain ⟨hstate,hpending,hplaying,hsettled⟩ := h.phase.of_settle waits
  have hcan : canSetState (r.take .settle).state .idle=true := by
    have hstate' : (r.take .settle).state=.notifying := hstate
    rw [hstate']
    rfl
  rw [setState_of_can hcan]
  exact h.keep (.idle rfl (pending_take hpending) hplaying hsettled) rfl rfl

/-- Every step that meets the condition keeps the invariant. -/
theorem inv_step {event : Event} (hserved : Served r event) (hstep : Step r event r') : Inv r' := by
  cases hstep with
  | renderNotification audioFactory => exact inv_renderNotification h audioFactory
  | acquireChannel setSource acquires calls => exact inv_acquireChannel h calls hserved
  | cancelNotificationRendering => exact inv_cancelNotificationRendering h
  | focusGiven behavior acquired gives => exact inv_focusGiven h acquired gives hserved
  | focusChanged behavior had => exact inv_focusChanged h had
  | executePlay answers queued => exact inv_executePlay h queued hserved
  | playbackEnded plays => exact inv_playbackEnded h plays
  | playbackError plays => exact inv_playbackError h plays
  | runFallback answers started => exact inv_runFallback h started
  | channelReleased waits => exact inv_channelReleased h waits
  | notifyObservers waits => exact inv_notifyObservers h waits
  | settle waits => exact inv_settle h waits

end

theorem inv_new : Inv new := by
  refine ⟨.idle rfl rfl rfl ?_,?_,?_,?_⟩
  · exact nofun
  · exact nofun
  · exact nofun
  · exact nofun

/-- In every run whose steps meet the condition, every rendering is completed. -/
theorem rendering_completes (events : List Event) (r : Renderer)
    (run : Run (Guarded Step Served) new events r) : Completes r := by
  have hinv : Inv r :=
    run.invariant Inv inv_new fun s event t h hstep => inv_step h hstep.1 hstep.2
  exact hinv.completes

/-- The default sound is played, then it is cancelled. -/
theorem rendering_completes_fallback : ∃ (events : List Event) (r : Renderer),
      Run (Guarded Step Served) new events r ∧ Completes r ∧ Quiescent r ∧
      r.accepted=[1] ∧ r.finished=[1] := by
  have hrun : Run (Guarded Step Served) new
      [.renderNotification true,.acquireChannel true true,.focusGiven .foreground .primary,
        .executePlay ⟨true,true,true⟩,.playbackError 1,.cancelNotificationRendering,
        .runFallback ⟨true,true,true⟩,.playbackEnded 2,.channelReleased,.notifyObservers,.settle] _ :=
    ((((((((((Run.refl.snoc ⟨trivial,.renderNotification true⟩).snoc
      ⟨.inl rfl,@Step.acquireChannel _ 1 true true (by decide)⟩).snoc
      ⟨⟨rfl,.inr rfl⟩,.focusGiven .primary (by decide) (by decide)⟩).snoc
      ⟨.inl ⟨by decide,rfl⟩,.executePlay ⟨true,true,true⟩ (by decide) (.inl (by decide))⟩).snoc
      ⟨trivial,.playbackError (by decide)⟩).snoc
      ⟨trivial,.cancelNotificationRendering⟩).snoc
      ⟨trivial,.runFallback ⟨true,true,true⟩ (by decide) (by decide)⟩).snoc
      ⟨trivial,.playbackEnded (by decide)⟩).snoc
      ⟨trivial,.channelReleased (by decide)⟩).snoc
      ⟨trivial,.notifyObservers (by decide)⟩).snoc
      ⟨trivial,.settle (by decide)⟩
  exact ⟨_,_,hrun,rendering_completes _ _ hrun,⟨by decide,by decide⟩,
    by decide,by decide⟩

/-- A refused acquisition leaves the renderer in `RENDERING_PREFERRED`. -/
theorem unacquired_channel_wedges : ¬∀ (events : List Event) (r : Renderer),Run Step new events r → Completes r := by
  intro hall
  have hrun : Run Step new _ _ :=
    (Run.refl.snoc (.renderNotification true)).snoc (@Step.acquireChannel _ 1 true false (by decide))
  have hwrong := ((hall _ _ hrun).complete ⟨rfl,rfl⟩).1
  cases hwrong

end AlexaClientSDK.NotificationRendering
