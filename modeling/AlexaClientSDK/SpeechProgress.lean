import AlexaClientSDK.LabelledRuns
import AlexaClientSDK.SpeechSynthesizer
import AlexaClientSDK.Updates

/-!
# Speech goes on

When nothing is outstanding there is no current directive, the front of the queue waits to be handled, and every
directive that was handled has a result or was cancelled. A current directive has a source whose end is owed, or waits
for the channel. The code misses this where an acquisition is refused, a directive that has not been played is replaced,
speech that is being stopped ends by itself, and directives are handled out of order.
-/

namespace AlexaClientSDK.SpeechProgress

open Bool Option Function List LabelledRuns SpeechSynthesizer Synthesizer Updates SpeakDirectiveInfo Happening Task
open AudioPlayer (PlayBehavior ChannelRequest SourceId)
open FocusChannel (FocusState)

variable {s t u : Synthesizer}

section

variable (s)

/-- A directive is done with, or it is kept. -/
def Settled (directive : ℕ) : Prop :=
  Done s directive ∨ directive∈s.speakInfoQueue ∨ s.currentInfo=some directive

/-- A directive whose failure is noted in its info was reported. -/
def Flagged : Prop :=
  ∀ directive,(s.info directive).isSetFailedCalled=true → Answered s directive

/-- Nothing happens, and no directive is lost. -/
structure Effect (s t : Synthesizer) : Prop where
  tasks : t.tasks=s.tasks
  directives : t.directives=s.directives
  history : ∀ happening∈s.history,happening∈t.history
  queue : t.speakInfoQueue.Sublist s.speakInfoQueue
  handled : ∀ directive,(t.info directive).isHandled=(s.info directive).isHandled
  settled : ∀ directive,Settled s directive → Settled t directive
  flagged : Flagged s → Flagged t

theorem Effect.refl : Effect s s :=
  ⟨rfl,rfl,fun _ h => h,List.Sublist.refl _,fun _ => rfl,fun _ h => h,fun h => h⟩

/-- What the effects are about. -/
def core :=
  (s.tasks,s.directives,s.history,s.speakInfoQueue,s.currentInfo,s.info)

end

theorem Effect.of_core (h : core t=core s) : Effect s t := by
  simp only [core,Prod.mk.injEq] at h
  obtain ⟨htasks,hdirectives,hhistory,hqueue,hcurrent,hinfo⟩ := h
  refine ⟨htasks,hdirectives,?_,?_,?_,?_,?_⟩
  · intro happening hpast
    rw [hhistory]
    exact hpast
  · rw [hqueue]
  · intro directive
    rw [hinfo]
  · intro directive
    unfold Settled Done Answered Cancelled
    rw [hhistory,hqueue,hcurrent]
    exact id
  · unfold Flagged Answered
    rw [hhistory,hinfo]
    exact id

theorem Effect.trans (h : Effect s t) (h' : Effect t u) : Effect s u where
  tasks := h'.tasks.trans h.tasks
  directives := h'.directives.trans h.directives
  history := fun happening hpast => h'.history happening (h.history happening hpast)
  queue := h'.queue.trans h.queue
  handled := fun directive => (h'.handled directive).trans (h.handled directive)
  settled := fun directive hsettled => h'.settled directive (h.settled directive hsettled)
  flagged := fun hflagged => h'.flagged (h.flagged hflagged)

variable {directive : ℕ}

theorem Effect.answered (h : Effect s t) (hanswered : Answered s directive) : Answered t directive := hanswered.mono h.history

theorem Effect.done (h : Effect s t) (hdone : Done s directive) : Done t directive := hdone.mono h.history

section

variable (s)

theorem effect_happen (past : List Happening) : Effect s {s with history := s.history++past} := by
  have hmem : ∀ happening∈s.history,happening∈s.history++past := fun _ hpast => mem_append_left _ hpast
  refine ⟨rfl,rfl,hmem,List.Sublist.refl _,fun _ => rfl,?_,?_⟩
  · exact fun directive hsettled => hsettled.imp (fun hdone => hdone.mono hmem) id
  · exact fun hflagged directive hflag => (hflagged directive hflag).mono hmem

theorem effect_note (happening : Happening) : Effect s (s.note happening) :=
  effect_happen s [happening]

/-- The info of a directive changes; its failure is noted if it was reported. -/
theorem effect_updateInfo (directive : ℕ) (f : SpeakDirectiveInfo → SpeakDirectiveInfo)
    (hhandled : (f (s.info directive)).isHandled=(s.info directive).isHandled)
    (hflag : (f (s.info directive)).isSetFailedCalled=true →
      (s.info directive).isSetFailedCalled=true ∨ Answered s directive) : Effect s (s.updateInfo directive f) := by
  refine ⟨rfl,rfl,fun _ h => h,List.Sublist.refl _,update_keeps isHandled hhandled,fun _ h => h,fun hflagged => ?_⟩
  refine (forall_update_iff s.info fun other info =>
    info.isSetFailedCalled=true → Answered s other).mpr ⟨?_,fun other _ => hflagged other⟩
  exact fun hother => (hflag hother).elim (hflagged directive) id

theorem effect_clear (directive : ℕ) : Effect s (s.updateInfo directive clear) :=
  effect_updateInfo s directive _ rfl nofun

theorem effect_conclude (directive : ℕ) (happening : Happening) : Effect s (s.conclude directive happening) :=
  (effect_note s _).trans (effect_clear _ directive)

theorem effect_concludeAll (directives : List ℕ) (happening : ℕ → Happening) :
    Effect s (s.concludeAll directives happening) := by
  induction directives generalizing s with
  | nil => exact Effect.refl s
  | cons head tail ih => exact (effect_conclude s head _).trans (ih _)

end

/-- Infos stay or are cleared. -/
def Cleared (info info' : ℕ → SpeakDirectiveInfo) : Prop :=
  ∀ directive,info' directive=info directive ∨ info' directive=(info directive).clear

theorem cleared_update (info : ℕ → SpeakDirectiveInfo) (directive : ℕ) :
    Cleared info (Function.update info directive (info directive).clear) :=
  update_rel (R := fun info info' : SpeakDirectiveInfo => info'=info ∨ info'=info.clear) (fun _ => .inl rfl)
    (.inr rfl)

theorem Cleared.handled {info info' : ℕ → SpeakDirectiveInfo} (h : Cleared info info') (directive : ℕ) :
    (info' directive).isHandled=(info directive).isHandled := by
  obtain hsame|hclear := h directive
  · rw [hsame]
  · rw [hclear]
    rfl

theorem Cleared.initiated {info info' : ℕ → SpeakDirectiveInfo} (h : Cleared info info')
    (hflag : (info' directive).isPlaybackInitiated=true) : (info directive).isPlaybackInitiated=true := by
  obtain hsame|hclear := h directive
  · rw [hsame] at hflag
    exact hflag
  · rw [hclear] at hflag
    cases hflag

theorem Cleared.trans {info info' info'' : ℕ → SpeakDirectiveInfo} (h : Cleared info info')
    (h' : Cleared info' info'') : Cleared info info'' := by
  intro directive
  obtain heq|heq := h directive
  · rw [←heq]
    exact h' directive
  · right
    obtain heq'|heq' := h' directive
    · exact heq'.trans heq
    · rw [heq',heq]
      rfl

theorem concludeAll_eq (s : Synthesizer) (directives : List ℕ) (happening : ℕ → Happening) :
    ∃ info,Cleared s.info info ∧ s.concludeAll directives happening={s with
      info := info
      history := s.history++directives.map happening} := by
  induction directives generalizing s with
  | nil => exact ⟨s.info,fun _ => .inl rfl,by rw [map_nil,append_nil]; rfl⟩
  | cons head tail ih =>
    obtain ⟨info,hinfo,heq⟩ := ih (s.conclude head (happening head))
    refine ⟨info,(cleared_update s.info head).trans hinfo,heq.trans ?_⟩
    rw [map_cons,append_cons]
    rfl

variable {current : ℕ}

/-- The queue is empty, and all directives are reported as failed. -/
theorem executePlaybackError_eq (hcurrent : s.currentInfo=some current) (error : String) :
    ∃ info,Cleared s.info info ∧ info current=(s.info current).clear ∧ s.executePlaybackError error={s with
      info := info
      history := s.history++(current::s.speakInfoQueue).map fun directive => failed directive error
      currentFocus := .none
      requests := s.requests++[.release]
      desiredState := .INTERRUPTED
      currentState := .INTERRUPTED
      speakInfoQueue := []
      currentInfo := none
      mediaSourceId := none} := by
  unfold executePlaybackError
  split
  · next hnone =>
    rw [hcurrent] at hnone
    cases hnone
  · next other hother =>
    cases hcurrent.symm.trans hother
    dsimp only
    obtain ⟨info,hinfo,heq⟩ := concludeAll_eq
      {s with
        desiredState := .INTERRUPTED
        currentState := .INTERRUPTED}.releaseForegroundFocus (current::s.speakInfoQueue)
      fun directive => failed directive error
    rw [show ({s with
      desiredState := .INTERRUPTED
      currentState := .INTERRUPTED} : Synthesizer).releaseForegroundFocus.speakInfoQueue=s.speakInfoQueue from rfl]
    rw [heq]
    unfold resetCurrentInfo
    split
    · next hnone =>
      cases hcurrent.symm.trans hnone
    · next last hlast =>
      cases hcurrent.symm.trans hlast
      refine ⟨_,Cleared.trans hinfo (cleared_update info current),?_,rfl⟩
      rw [update_self]
      obtain hsame|hclear := hinfo current
      · exact congrArg clear hsame
      · rw [hclear]
        rfl

theorem executePlaybackError_none (hcurrent : s.currentInfo=none) (error : String) :
    s.executePlaybackError error=s := by
  unfold executePlaybackError
  split
  · rfl
  · next other hother => cases hcurrent.symm.trans hother

section

variable (s)

theorem effect_executePlaybackError (error : String) : Effect s (s.executePlaybackError error) := by
  cases hcurrent : s.currentInfo with
  | none =>
    rw [executePlaybackError_none hcurrent]
    exact Effect.refl s
  | some current =>
    obtain ⟨info,hinfo,hcleared,heq⟩ := executePlaybackError_eq hcurrent error
    rw [heq]
    have hmem : ∀ directive∈current::s.speakInfoQueue,failed directive error ∈
        s.history++(current::s.speakInfoQueue).map fun directive => failed directive error :=
      fun directive hdirective => mem_append_right _ (mem_map_of_mem hdirective)
    have hpast : ∀ happening∈s.history,happening ∈
        s.history++(current::s.speakInfoQueue).map fun directive => failed directive error :=
      fun _ h => mem_append_left _ h
    refine ⟨rfl,rfl,hpast,nil_sublist _,hinfo.handled,?_,?_⟩
    · rintro directive (hdone|hqueued|hcurrent')
      · exact .inl (hdone.mono hpast)
      · exact .inl (.inl (.inr ⟨error,hmem directive (mem_cons_of_mem _ hqueued)⟩))
      · cases hcurrent.symm.trans hcurrent'
        exact .inl (.inl (.inr ⟨error,hmem current mem_cons_self⟩))
    · intro hflagged directive hflag
      obtain hsame|hclear := hinfo directive
      · have hbefore : (s.info directive).isSetFailedCalled=true := by
          rw [←hsame]
          exact hflag
        exact (hflagged directive hbefore).mono hpast
      · have hno : (info directive).isSetFailedCalled=false := congrArg isSetFailedCalled hclear
        cases hno.symm.trans hflag

theorem effect_stopPlaying (stops : Bool) : Effect s (s.stopPlaying stops) := by
  unfold stopPlaying
  split
  · exact Effect.refl s
  split
  · exact Effect.refl s
  split
  · exact Effect.of_core rfl
  · exact effect_executePlaybackError s _

theorem effect_sendException (directive : ℕ) (message : String) (stops : Bool) :
    Effect s (s.sendExceptionEncounteredAndReportFailed directive message stops) := by
  have hconclude : Effect s (s.conclude directive (.failed directive message)) := effect_conclude s directive _
  unfold sendExceptionEncounteredAndReportFailed
  dsimp only
  split
  · have hanswered : Answered (s.conclude directive (.failed directive message)) directive :=
      .inr ⟨message,mem_concat_self⟩
    have hflag := effect_updateInfo (s.conclude directive (.failed directive message)) directive
      (fun info => {info with isSetFailedCalled := true}) rfl (fun _ => .inr hanswered)
    exact (hconclude.trans hflag).trans (effect_stopPlaying _ stops)
  · exact hconclude

theorem answered_sendException (directive : ℕ) (message : String) (stops : Bool) :
    Answered (s.sendExceptionEncounteredAndReportFailed directive message stops) directive := by
  have hanswered : Answered (s.conclude directive (.failed directive message)) directive :=
    .inr ⟨message,mem_concat_self⟩
  unfold sendExceptionEncounteredAndReportFailed
  dsimp only
  split
  · exact (effect_stopPlaying _ stops).answered hanswered
  · exact hanswered

def Ends (id : SourceId) : Task → Prop
  | .playbackFinished other | .playbackStopped other | .playbackError other _ => other=id
  | _ => False

/-- There is a source, and the media player owes its end or has told it. -/
def Sourced : Prop :=
  ∃ id,s.mediaSourceId=some id ∧ (id∈s.owed ∨ ∃ task∈s.tasks,Ends id task)

/-- There is no source yet, and speech is to begin. -/
def Beginning : Prop :=
  s.mediaSourceId=none ∧ s.desiredState=.PLAYING ∧ s.currentState≠.PLAYING

/-- The channel was asked for, or the state is to change. -/
def Awaited : Prop :=
  ChannelRequest.acquire∈s.requests ∨ stateChange .PLAYING∈s.tasks ∨ stateChange .INTERRUPTED∈s.tasks

end

/-- Among the directives of a queue, those that were handled come first. -/
def HandledFirst (info : ℕ → SpeakDirectiveInfo) (queue : List ℕ) : Prop :=
  queue.Pairwise fun earlier later => (info later).isHandled=true → (info earlier).isHandled=true

structure Speaking (s : Synthesizer) : Prop where
  /-- A current directive is played, or it is about to be. -/
  current : s.currentInfo≠none → Sourced s ∨ (Beginning s ∧ Awaited s)
  source : s.mediaSourceId≠none → s.currentInfo≠none
  playing : s.currentState=.PLAYING → s.mediaSourceId≠none
  /-- For the current directive alone, which has a source then. -/
  initiated : ∀ directive,(s.info directive).isPlaybackInitiated=true →
    s.currentInfo=some directive ∧ s.mediaSourceId≠none
  handled : HandledFirst s.info s.speakInfoQueue
  idle : s.currentInfo=none → ∀ directive∈s.speakInfoQueue,(s.info directive).isHandled=false

variable {queue : List ℕ}

/-- The order stays when directives leave the queue. -/
theorem HandledFirst.mono {info info' : ℕ → SpeakDirectiveInfo} {queue' : List ℕ} (h : HandledFirst info queue)
    (hsub : queue'.Sublist queue) (hinfo : ∀ directive,(info' directive).isHandled=(info directive).isHandled) :
    HandledFirst info' queue' := by
  refine List.Pairwise.imp ?_ (h.sublist hsub)
  intro earlier later hfirst hlater
  rw [hinfo] at hlater ⊢
  exact hfirst hlater

theorem Speaking.info (h : Speaking s) {info : ℕ → SpeakDirectiveInfo} (history : List Happening)
    (hhandled : ∀ directive,(info directive).isHandled=(s.info directive).isHandled)
    (hinitiated : ∀ directive,(info directive).isPlaybackInitiated=true → (s.info directive).isPlaybackInitiated=true) :
    Speaking {s with
      info := info
      history := history} := by
  refine ⟨h.current,h.source,h.playing,?_,h.handled.mono (List.Sublist.refl _) hhandled,?_⟩
  · exact fun directive hflag => h.initiated directive (hinitiated directive hflag)
  · intro hnone directive hdirective
    exact (hhandled directive).trans (h.idle hnone directive hdirective)

theorem Speaking.updateInfo (h : Speaking s) (directive : ℕ) (f : SpeakDirectiveInfo → SpeakDirectiveInfo)
    (hhandled : ∀ info,(f info).isHandled=info.isHandled)
    (hinitiated : ∀ info,(f info).isPlaybackInitiated=true → info.isPlaybackInitiated=true) :
    Speaking (s.updateInfo directive f) := by
  refine h.info s.history (update_keeps isHandled (hhandled _)) ?_
  exact update_rel (R := fun info info' : SpeakDirectiveInfo => info'.isPlaybackInitiated=true → info.isPlaybackInitiated=true)
    (fun _ => id) (hinitiated _)

theorem Speaking.conclude (h : Speaking s) (directive : ℕ) (happening : Happening) :
    Speaking (s.conclude directive happening) := by
  have hnoted : Speaking (s.note happening) := h.info _ (fun _ => rfl) (fun _ => id)
  exact hnoted.updateInfo directive _ (fun _ => rfl) (fun _ hflag => Bool.noConfusion hflag)

theorem speaking_of_none (hcurrent : s.currentInfo=none) (hsource : s.mediaSourceId=none)
    (hstate : s.currentState≠.PLAYING) (hinitiated : ∀ directive,(s.info directive).isPlaybackInitiated=false)
    (hhandled : HandledFirst s.info s.speakInfoQueue)
    (hidle : ∀ directive∈s.speakInfoQueue,(s.info directive).isHandled=false) : Speaking s := by
  refine ⟨fun h => (h hcurrent).elim,fun h => (h hsource).elim,fun h => (hstate h).elim,?_,hhandled,fun _ => hidle⟩
  intro directive hflag
  rw [hinitiated directive] at hflag
  cases hflag

theorem speaking_executePlaybackError_some (hcurrent : s.currentInfo=some current)
    (hinitiated : ∀ directive,(s.info directive).isPlaybackInitiated=true → directive=current) (error : String) :
    Speaking (s.executePlaybackError error) := by
  obtain ⟨info,hinfo,hcleared,heq⟩ := executePlaybackError_eq hcurrent error
  rw [heq]
  refine speaking_of_none rfl rfl ?_ ?_ List.Pairwise.nil ?_
  · exact nofun
  · intro directive
    dsimp only
    obtain hsame|hclear := hinfo directive
    · by_cases hdirective : directive=current
      · rw [hdirective,hcleared]
        rfl
      · rw [hsame]
        exact eq_false_iff.mpr fun hflag => hdirective (hinitiated directive hflag)
    · rw [hclear]
      rfl
  · exact nofun

theorem speaking_executePlaybackError (h : Speaking s) (error : String) : Speaking (s.executePlaybackError error) := by
  cases hcurrent : s.currentInfo with
  | none =>
    rw [executePlaybackError_none hcurrent]
    exact h
  | some =>
    refine speaking_executePlaybackError_some hcurrent ?_ error
    intro directive hflag
    have hsome := (h.initiated directive hflag).1
    rw [hcurrent] at hsome
    exact (some.inj hsome).symm

theorem speaking_stopPlaying (h : Speaking s) (stops : Bool) : Speaking (s.stopPlaying stops) := by
  unfold stopPlaying
  split
  · exact h
  next hsource =>
  split
  · exact h
  split
  · refine ⟨?_,h.source,h.playing,h.initiated,h.handled,h.idle⟩
    intro hcurrent
    obtain hsourced|⟨hbeginning,_⟩ := h.current hcurrent
    · exact .inl hsourced
    · exact (hsource hbeginning.1).elim
  · exact speaking_executePlaybackError h _

theorem speaking_sendException (h : Speaking s) (directive : ℕ) (message : String) (stops : Bool) :
    Speaking (s.sendExceptionEncounteredAndReportFailed directive message stops) := by
  have hconclude := h.conclude directive (.failed directive message)
  unfold sendExceptionEncounteredAndReportFailed
  dsimp only
  split
  · have hflagged := hconclude.updateInfo directive (fun info => {info with isSetFailedCalled := true})
      (fun _ => rfl) (fun _ => id)
    exact speaking_stopPlaying hflagged stops
  · exact hconclude

def mark (s : Synthesizer) (directive : ℕ) : Synthesizer :=
  s.updateInfo directive fun info => {info with isHandled := true}

/-- The front becomes the current one, and asks for the channel. -/
def begin (s : Synthesizer) (front : ℕ) (rest : List ℕ) : Synthesizer :=
  {s with
    speakInfoQueue := rest
    currentInfo := some front
    desiredState := .PLAYING
    requests := s.requests++[.acquire]}

variable {front : ℕ} {a : Answers} {rest : List ℕ}

theorem speaking_begin (hsource : s.mediaSourceId=none) (hstate : s.currentState≠.PLAYING)
    (hhandled : HandledFirst s.info rest)
    (hinitiated : ∀ directive,(s.info directive).isPlaybackInitiated=false) : Speaking (begin s front rest) := by
  refine ⟨?_,fun h => (h hsource).elim,fun h => (hstate h).elim,?_,hhandled,?_⟩
  · intro _
    exact .inr ⟨⟨hsource,rfl,hstate⟩,.inl mem_concat_self⟩
  · intro directive hflag
    have hno : ((begin s front rest).info directive).isPlaybackInitiated=false := hinitiated directive
    rw [hno] at hflag
    cases hflag
  · exact nofun

theorem mark_handled (hhandled : (s.info front).isHandled=true) (directive : ℕ) :
    ((mark s front).info directive).isHandled=(s.info directive).isHandled :=
  update_keeps isHandled hhandled.symm directive

theorem mark_initiated (s : Synthesizer) (front directive : ℕ) :
    ((mark s front).info directive).isPlaybackInitiated=(s.info directive).isPlaybackInitiated :=
  update_keeps isPlaybackInitiated (by rfl) directive

theorem HandledFirst.idle {info : ℕ → SpeakDirectiveInfo} (h : HandledFirst info queue)
    (hfront : ∀ front,queue.head?=some front → (info front).isHandled=false) :
    ∀ directive∈queue,(info directive).isHandled=false := by
  cases queue with
  | nil => exact nofun
  | cons front =>
    have hno : (info front).isHandled=false := hfront front rfl
    intro directive hdirective
    obtain hfirst|hlater := mem_cons.mp hdirective
    · rw [hfirst]
      exact hno
    · refine eq_false_iff.mpr fun hflag => ?_
      rw [(pairwise_cons.mp h).1 directive hlater hflag] at hno
      cases hno

theorem tellFinished_eq (s : Synthesizer) (current : ℕ) :
    ∃ (state : SpeechSynthesizerState) (sent : List Happening),¬(state=.PLAYING ∨ state=.GAINING_FOCUS) ∧
      (∀ happening∈sent,∃ eventName token,happening=.sent eventName token) ∧
      s.tellFinished current={s with
        currentState := state
        history := s.history ++
          (sent++if (s.info current).sendCompletedMessage then [.completed current] else [])} := by
  have hstate : ∀ interrupted : Bool,¬((if interrupted then SpeechSynthesizerState.INTERRUPTED else .FINISHED) =
      .PLAYING ∨ (if interrupted then SpeechSynthesizerState.INTERRUPTED else .FINISHED)=.GAINING_FOCUS) := by
    intro interrupted
    cases interrupted with
    | true => simp
    | false => simp
  unfold tellFinished
  dsimp only
  generalize decide (s.desiredState=.INTERRUPTED)=interrupted
  refine ⟨if interrupted then .INTERRUPTED else .FINISHED,if (s.info current).sendPlaybackFinishedMessage then
    [.sent (if interrupted then "SpeechInterrupted" else "SpeechFinished") (s.info current).token] else [],
    hstate interrupted,?_,?_⟩
  · intro happening hmem
    split at hmem
    · exact ⟨_,_,mem_singleton.mp hmem⟩
    · cases hmem
  · split
    · split
      · rw [←append_assoc]
        rfl
      · rfl
    · split
      · rfl
      · rw [append_nil,append_nil]

theorem cleared_initiated {info : ℕ → SpeakDirectiveInfo}
    (hinitiated : ∀ directive,(info directive).isPlaybackInitiated=true → directive=current) (directive : ℕ) :
    (Function.update info current (info current).clear directive).isPlaybackInitiated=false := by
  by_cases heq : directive=current
  · rw [heq,update_self]
    rfl
  · rw [update_of_ne heq]
    exact eq_false_iff.mpr fun hflag => heq (hinitiated directive hflag)

section

variable (hcurrent : s.currentInfo=none)
include hcurrent

theorem executeHandle_front (hqueue : s.speakInfoQueue=front::rest) (hacquires : a.acquiresChannel=true) :
    s.executeHandleAfterValidation front a=begin (mark s front) front rest := by
  unfold executeHandleAfterValidation
  dsimp only
  have hnone : (mark s front).currentInfo.isSome=false := congrArg isSome hcurrent
  have hfront : (mark s front).speakInfoQueue.head?=some front := congrArg List.head? hqueue
  have htail : (mark s front).speakInfoQueue.tail=rest := congrArg List.tail hqueue
  unfold mark at hnone hfront htail
  rw [hnone,if_neg Bool.false_ne_true,if_neg (fun hne => hne hfront),if_pos hacquires,htail]
  rfl

theorem handleFront_cases (hacquires : a.acquiresChannel=true) :
    (s.handleFront a=s ∧ ∀ front,s.speakInfoQueue.head?=some front → (s.info front).isHandled=false) ∨
      ∃ front rest,s.speakInfoQueue=front::rest ∧ (s.info front).isHandled=true ∧
        s.handleFront a=begin (mark s front) front rest := by
  unfold handleFront
  split
  · next hqueue =>
    left
    refine ⟨rfl,fun front hfront => ?_⟩
    rw [hqueue] at hfront
    cases hfront
  · next front rest hqueue =>
    split
    · next hhandled => exact .inr ⟨front,rest,hqueue,hhandled,executeHandle_front hcurrent hqueue hacquires⟩
    · next hhandled =>
      left
      refine ⟨rfl,fun other hother => ?_⟩
      rw [hqueue,List.head?_cons,some.injEq] at hother
      rw [←hother]
      exact eq_false_iff.mpr hhandled

theorem effect_begin (hqueue : s.speakInfoQueue=front::rest) : Effect s (begin s front rest) := by
  refine ⟨rfl,rfl,fun _ h => h,?_,fun _ => rfl,?_,id⟩
  · rw [hqueue]
    exact sublist_cons_self front rest
  · rintro directive (hbefore|hqueued|hother)
    · exact .inl hbefore
    · rw [hqueue] at hqueued
      obtain heq|hlater := mem_cons.mp hqueued
      · exact .inr (.inr (congrArg some heq.symm))
      · exact .inr (.inl hlater)
    · cases hcurrent.symm.trans hother

theorem effect_handleFront (hacquires : a.acquiresChannel=true) : Effect s (s.handleFront a) := by
  obtain ⟨hsame,_⟩|⟨front,rest,hqueue,hfront,hbegin⟩ := handleFront_cases hcurrent hacquires
  · rw [hsame]
    exact Effect.refl s
  · rw [hbegin]
    have hmark : Effect s (mark s front) :=
      effect_updateInfo s front (fun info => {info with isHandled := true}) hfront.symm .inl
    exact hmark.trans (effect_begin (s := mark s front) hcurrent hqueue)

end

section

variable (hcurrent : s.currentInfo=some current)
include hcurrent

theorem resetCurrentInfo_eq : s.resetCurrentInfo={s.updateInfo current clear with currentInfo := none} := by
  unfold resetCurrentInfo
  split
  · next hnone => cases hcurrent.symm.trans hnone
  · next other hother =>
    cases hcurrent.symm.trans hother
    rfl

theorem executePlaybackFinished_eq (a : Answers) : s.executePlaybackFinished a =
      {(s.tellFinished current).resetCurrentInfo.handleFront a with mediaSourceId := none} := by
  unfold executePlaybackFinished
  split
  · next hnone => cases hcurrent.symm.trans hnone
  · next other hother =>
    cases hcurrent.symm.trans hother
    rfl

/-- The next one waits for the channel, or none was handled. -/
theorem speaking_executePlaybackFinished
    (hacquires : a.acquiresChannel=true) (hhandled : HandledFirst s.info s.speakInfoQueue)
    (hinitiated : ∀ directive,(s.info directive).isPlaybackInitiated=true → directive=current) :
    Speaking (s.executePlaybackFinished a) := by
  rw [executePlaybackFinished_eq hcurrent]
  obtain ⟨state,sent,hstate,_,heq⟩ := tellFinished_eq s current
  obtain ⟨history,htold⟩ : ∃ history,s.tellFinished current={s with currentState := state,history := history} := ⟨_,heq⟩
  have hstate' : state≠.PLAYING := fun hplaying => hstate (.inl hplaying)
  have hreset := @resetCurrentInfo_eq (s.tellFinished current) current (by rw [htold]; exact hcurrent)
  rw [hreset,htold]
  have hfirst : HandledFirst (Function.update s.info current (s.info current).clear) s.speakInfoQueue :=
    hhandled.mono (List.Sublist.refl _) (cleared_update s.info current).handled
  obtain ⟨hsame,hfront⟩|⟨front,rest,hqueue,hfront,hbegin⟩ := @handleFront_cases
    {({s with currentState := state,history := history} : Synthesizer).updateInfo current clear with
      currentInfo := none} a rfl hacquires
  · rw [hsame]
    exact speaking_of_none rfl rfl hstate' (cleared_initiated hinitiated) hfirst (hfirst.idle hfront)
  · rw [hbegin]
    have hrest : HandledFirst (Function.update s.info current (s.info current).clear) rest := by
      have hqueue' : s.speakInfoQueue=front::rest := hqueue
      rw [hqueue'] at hfirst
      exact (pairwise_cons.mp hfirst).2
    refine @speaking_begin
      {mark {({s with currentState := state,history := history} : Synthesizer).updateInfo current
          clear with currentInfo := none} front with mediaSourceId := none} front rest rfl hstate' ?_ ?_
    · exact hrest.mono (List.Sublist.refl _) (mark_handled hfront)
    · intro directive
      exact (mark_initiated _ front directive).trans (cleared_initiated hinitiated directive)

theorem effect_resetCurrentInfo (hdone : Done s current) : Effect s s.resetCurrentInfo := by
  rw [resetCurrentInfo_eq hcurrent]
  have hclear := effect_clear s current
  refine ⟨rfl,rfl,hclear.history,hclear.queue,hclear.handled,?_,hclear.flagged⟩
  rintro directive (hbefore|hqueued|hother)
  · exact .inl hbefore
  · exact .inr (.inl hqueued)
  · cases hcurrent.symm.trans hother
    exact .inl hdone

/-- The end of a playback loses no directive, if the current one is done with. -/
theorem effect_executePlaybackFinished (hacquires : a.acquiresChannel=true)
    (hdone : (s.info current).sendCompletedMessage=true ∨ Done s current) : Effect s (s.executePlaybackFinished a) := by
  rw [executePlaybackFinished_eq hcurrent]
  have htold : Effect s (s.tellFinished current) ∧ Done (s.tellFinished current) current ∧
      (s.tellFinished current).currentInfo=some current := by
    obtain ⟨state,sent,_,_,htold⟩ := tellFinished_eq s current
    rw [htold]
    have hpast : Effect s {s with
        currentState := state
        history := s.history ++ (sent++if (s.info current).sendCompletedMessage then [.completed current] else [])} :=
      (effect_happen s _).trans (Effect.of_core rfl)
    refine ⟨hpast,?_,hcurrent⟩
    obtain hsend|hbefore := hdone
    · rw [if_pos hsend]
      exact .inl (.inl (mem_append_right _ mem_concat_self))
    · exact hpast.done hbefore
  obtain ⟨heffect,hdone',hcurrent'⟩ := htold
  have hreset : Effect s (s.tellFinished current).resetCurrentInfo :=
    heffect.trans (effect_resetCurrentInfo hcurrent' hdone')
  have hnone : (s.tellFinished current).resetCurrentInfo.currentInfo=none := by
    rw [resetCurrentInfo_eq hcurrent']
  exact (hreset.trans (effect_handleFront hnone hacquires)).trans (Effect.of_core rfl)

end

theorem Speaking.leave (h : Speaking s) (hsub : queue.Sublist s.speakInfoQueue) :
    Speaking {s with speakInfoQueue := queue} := by
  refine ⟨h.current,h.source,h.playing,h.initiated,h.handled.sublist hsub,?_⟩
  exact fun hnone directive hdirective => h.idle hnone directive (hsub.subset hdirective)

theorem Speaking.request (h : Speaking s) (r : ChannelRequest) : Speaking (s.request r) := by
  refine ⟨?_,h.source,h.playing,h.initiated,h.handled,h.idle⟩
  intro hcurrent
  obtain hsourced|⟨hbeginning,hasked|htask⟩ := h.current hcurrent
  · exact .inl hsourced
  · exact .inr ⟨hbeginning,.inl (mem_append_left _ hasked)⟩
  · exact .inr ⟨hbeginning,.inr htask⟩

/-- The speech of a current directive is played, or the directive is done with. -/
def Safe (s : Synthesizer) (directive : ℕ) : Prop :=
  (s.info directive).isPlaybackInitiated=true ∨ Done s directive

/-- A directive that is not done with keeps its info. -/
theorem safe_conclude (h : Safe s current) (directive : ℕ) {happening : Happening}
    (hresult : happening=.completed directive ∨ ∃ message,happening=.failed directive message) :
    Safe (s.conclude directive happening) current := by
  have heffect := effect_conclude s directive happening
  by_cases heq : current=directive
  · right
    left
    rw [heq]
    have hlast : happening∈(s.conclude directive happening).history :=
      mem_concat_self
    obtain hcompleted|⟨message,hfailed⟩ := hresult
    · rw [hcompleted] at hlast ⊢
      exact .inl hlast
    · rw [hfailed] at hlast ⊢
      exact .inr ⟨message,hlast⟩
  · obtain hflag|hdone := h
    · left
      have hsame : (s.conclude directive happening).info current=s.info current := update_of_ne heq _ _
      rw [hsame]
      exact hflag
    · exact .inr (heffect.done hdone)

theorem safe_concludeAll (h : Safe s current) (directives : List ℕ) {happening : ℕ → Happening}
    (hresult : ∀ directive,happening directive=.completed directive ∨
      ∃ message,happening directive=.failed directive message) :
    Safe (s.concludeAll directives happening) current := by
  induction directives generalizing s with
  | nil => exact h
  | cons head tail ih => exact ih (safe_conclude h head (hresult head))

theorem speaking_executeCancel (h : Speaking s) (directive : ℕ) (hacquires : a.acquiresChannel=true) :
    Speaking (s.executeCancel directive a) := by
  unfold executeCancel
  split
  · have hcleared := h.updateInfo directive clear (fun _ => rfl) (fun _ hflag => Bool.noConfusion hflag)
    exact hcleared.leave List.erase_sublist
  next hcurrent =>
  rw [Decidable.not_not] at hcurrent
  dsimp only
  have hmuted := h.updateInfo directive
    (fun info => {info with sendPlaybackStartedMessage := false,sendCompletedMessage := false})
    (fun _ => rfl) (fun _ => id)
  split
  · exact speaking_stopPlaying hmuted a.stops
  · have hended : ∀ state,Speaking (({s.updateInfo directive fun info =>
        {info with sendPlaybackStartedMessage := false,sendCompletedMessage := false} with
          desiredState := state} : Synthesizer).executePlaybackFinished a) := by
      intro state
      refine speaking_executePlaybackFinished hcurrent hacquires hmuted.handled ?_
      intro other hflag
      have hsome := (hmuted.initiated other hflag).1
      exact some.inj (hsome.symm.trans hcurrent)
    have hreleased : ∀ u : Synthesizer,Speaking u →
        Speaking (if u.currentInfo.isNone then u.releaseForegroundFocus else u) := by
      intro u hu
      split
      · have hrequest := hu.request .release
        exact ⟨hrequest.current,hu.source,hu.playing,hu.initiated,hu.handled,hu.idle⟩
      · exact hu
    exact hreleased _ (hended _)

theorem effect_executeCancel (hacquires : a.acquiresChannel=true)
    (hpending : s.currentInfo≠some directive → Done s directive) (hsafe : Safe s directive) :
    Effect s (s.executeCancel directive a) := by
  unfold executeCancel
  split
  · next hcurrent =>
    have hclear := effect_clear s directive
    refine ⟨rfl,rfl,hclear.history,erase_sublist,hclear.handled,?_,hclear.flagged⟩
    rintro other (hbefore|hqueued|hother)
    · exact .inl hbefore
    · by_cases heq : other=directive
      · rw [heq]
        exact .inl (hpending hcurrent)
      · exact .inr (.inl ((mem_erase_of_ne heq).mpr hqueued))
    · exact .inr (.inr hother)
  next hcurrent =>
  rw [Decidable.not_not] at hcurrent
  dsimp only
  have hmuted : Effect s (s.updateInfo directive fun info =>
      {info with sendPlaybackStartedMessage := false,sendCompletedMessage := false}) :=
    effect_updateInfo s directive _ rfl .inl
  split
  · exact hmuted.trans (effect_stopPlaying _ a.stops)
  · next hinitiated =>
    have hdone : Done s directive := by
      refine hsafe.resolve_left fun hflag => hinitiated ?_
      unfold updateInfo
      dsimp only
      rw [update_self]
      exact hflag
    have hended : ∀ state,Effect s (({s.updateInfo directive fun info =>
        {info with sendPlaybackStartedMessage := false,sendCompletedMessage := false} with
          desiredState := state} : Synthesizer).executePlaybackFinished a) := by
      intro state
      have hready : Effect s {s.updateInfo directive fun info =>
          {info with sendPlaybackStartedMessage := false,sendCompletedMessage := false} with
        desiredState := state} := hmuted.trans (Effect.of_core rfl)
      refine hready.trans (effect_executePlaybackFinished ?_ hacquires (.inr (hready.done hdone)))
      exact hcurrent
    have hreleased : ∀ u : Synthesizer,Effect u (if u.currentInfo.isNone then u.releaseForegroundFocus else u) := by
      intro u
      split
      · exact Effect.of_core rfl
      · exact Effect.refl u
    exact (hended _).trans (hreleased _)

section

variable (s)

theorem clearPendingDirectives_eq :
    ∃ info,Cleared s.info info ∧ s.clearPendingDirectives={s with
      info := info
      history := s.history++s.speakInfoQueue.map completed
      speakInfoQueue := []} := by
  obtain ⟨info,hinfo,heq⟩ := concludeAll_eq s s.speakInfoQueue completed
  refine ⟨info,hinfo,?_⟩
  unfold clearPendingDirectives
  rw [heq]

def enter (directive : ℕ) : Synthesizer :=
  {s with speakInfoQueue := s.speakInfoQueue++[directive]}

theorem effect_replace (directive : ℕ) :
    Effect (enter s directive) {s.clearPendingDirectives with speakInfoQueue := [directive]} := by
  have hall : Effect s (s.concludeAll s.speakInfoQueue completed) := effect_concludeAll s _ _
  obtain ⟨info,_,heq⟩ := concludeAll_eq s s.speakInfoQueue completed
  unfold clearPendingDirectives
  refine ⟨hall.tasks,hall.directives,hall.history,sublist_append_right _ _,hall.handled,?_,hall.flagged⟩
  rintro other (hbefore|hqueued|hother)
  · exact .inl (hall.done hbefore)
  · obtain hpending|hnew := mem_append.mp hqueued
    · refine .inl (.inl (.inl ?_))
      rw [heq]
      exact mem_append_right _ (mem_map_of_mem hpending)
    · exact .inr (.inl hnew)
  · refine .inr (.inr ?_)
    rw [heq]
    exact hother

end

theorem HandledFirst.enter {info : ℕ → SpeakDirectiveInfo} (h : HandledFirst info queue)
    (hnew : (info directive).isHandled=false) : HandledFirst info (queue++[directive]) := by
  refine pairwise_append.mpr ⟨h,pairwise_singleton _ _,?_⟩
  intro earlier _ later hlater hflag
  rw [mem_singleton.mp hlater,hnew] at hflag
  cases hflag

section

variable (h : Speaking s) (hnew : (s.info directive).isHandled=false)
include h hnew

theorem speaking_enter : Speaking (enter s directive) := by
  refine ⟨h.current,h.source,h.playing,h.initiated,h.handled.enter hnew,?_⟩
  intro hnone other hother
  obtain hbefore|hlast := mem_append.mp hother
  · exact h.idle hnone other hbefore
  · rw [mem_singleton.mp hlast]
    exact hnew

theorem speaking_replace : Speaking {s.clearPendingDirectives with speakInfoQueue := [directive]} := by
  obtain ⟨info,hinfo,heq⟩ := clearPendingDirectives_eq s
  rw [heq]
  have hentered : Speaking {enter s directive with speakInfoQueue := [directive]} :=
    (speaking_enter h hnew).leave (sublist_append_right _ _)
  exact hentered.info _ hinfo.handled (fun _ hflag => hinfo.initiated hflag)

end

theorem effect_addToDirectiveQueue (hacquires : a.acquiresChannel=true)
    (hsafe : ∀ current,s.currentInfo=some current → (s.info directive).playBehavior=.replaceAll → Safe s current) :
    Effect (enter s directive) (s.addToDirectiveQueue directive a) := by
  unfold addToDirectiveQueue
  split
  · exact Effect.of_core rfl
  · exact effect_replace s directive
  · next hbehavior =>
    have hreplace := effect_replace s directive
    dsimp only
    split
    · exact hreplace
    · next current hcurrent =>
      have hcurrent' : s.currentInfo=some current := by
        obtain ⟨info,_,heq⟩ := clearPendingDirectives_eq s
        rw [heq] at hcurrent
        exact hcurrent
      refine hreplace.trans (effect_executeCancel hacquires (fun hne => (hne hcurrent).elim) ?_)
      exact safe_concludeAll (hsafe current hcurrent' hbehavior) s.speakInfoQueue (fun _ => .inl rfl)

theorem speaking_addToDirectiveQueue (h : Speaking s) (hacquires : a.acquiresChannel=true)
    (hnew : (s.info directive).isHandled=false) : Speaking (s.addToDirectiveQueue directive a) := by
  unfold addToDirectiveQueue
  split
  · exact speaking_enter h hnew
  · exact speaking_replace h hnew
  · dsimp only
    split
    · exact speaking_replace h hnew
    · exact speaking_executeCancel (speaking_replace h hnew) _ hacquires

def Reads (f : SpeakDirectiveInfo → SpeakDirectiveInfo) : Prop :=
  ∀ info,(f info).isHandled=info.isHandled ∧ (f info).isSetFailedCalled=info.isSetFailedCalled ∧
    (f info).isPlaybackInitiated=info.isPlaybackInitiated

/-- The states in which the payload of a directive may have been read. -/
inductive Prepared (directive : ℕ) (stops : Bool) (s : Synthesizer) : Synthesizer → Prop
  | start : Prepared directive stops s s
  | read {t : Synthesizer} (before : Prepared directive stops s t) {f : SpeakDirectiveInfo → SpeakDirectiveInfo}
      (reads : Reads f) : Prepared directive stops s (t.updateInfo directive f)
  | fail {t : Synthesizer} (before : Prepared directive stops s t) (message : String) :
      Prepared directive stops s (t.sendExceptionEncounteredAndReportFailed directive message stops)

variable {stops : Bool}

def behaviorOf : Member → Option PlayBehavior
  | .missing => some .replaceAll
  | .invalid => none
  | .string text => stringToPlayBehavior text

section

variable (payload : SpeakPayload)

/-- How it is put into the queue once its URL is looked at. -/
def queuedUrl : Option PlayBehavior :=
  match payload.url with
  | .missing | .invalid => none
  | .string url => (contentId url).bind fun _ => behaviorOf payload.playBehavior

/-- The same from its format on. -/
def queuedFormat : Option PlayBehavior :=
  match payload.format with
  | .missing | .invalid => none
  | .string _ => queuedUrl payload

/-- The same from its token on. -/
def queuedToken : Option PlayBehavior :=
  match payload.token with
  | .missing | .invalid => none
  | .string _ => queuedFormat payload

end

/-- The behaviour with which a directive is put into the queue, if it is. -/
def queuedBehavior (speak : Speak) : Option PlayBehavior :=
  if speak.name ≠ "Speak" then none else speak.payload.bind queuedToken

/-- What comes of a directive: it is put into the queue, or it is not. -/
def Outcome (directive : ℕ) (a : Answers) (s : Synthesizer) (behavior : Option PlayBehavior) (r : Synthesizer) : Prop :=
  ∃ t,Prepared directive a.stops s t ∧ (behavior=none ∧ Answered t directive ∧ r=t ∨
    behavior=some (t.info directive).playBehavior ∧ r=t.addToDirectiveQueue directive a)

section

variable (h : Prepared directive a.stops s t)
include h

/-- A directive that fails is not put into the queue. -/
theorem outcome_fail (message : String) :
    Outcome directive a s none (t.sendExceptionEncounteredAndReportFailed directive message a.stops) :=
  ⟨_,h.fail message,.inl ⟨rfl,answered_sendException t directive message a.stops,rfl⟩⟩

theorem outcome_playBehavior (playBehavior : Member) :
    Outcome directive a s (behaviorOf playBehavior) (t.preHandlePlayBehavior directive playBehavior a) := by
  have hbehavior : ∀ b : PlayBehavior,Outcome directive a s (some b)
      ((t.updateInfo directive fun info => {info with playBehavior := b}).addToDirectiveQueue directive a) := by
    intro b
    have hread : Reads fun info => {info with playBehavior := b} := fun _ => ⟨rfl,rfl,rfl⟩
    refine ⟨_,h.read hread,.inr ⟨?_,rfl⟩⟩
    unfold updateInfo
    dsimp only
    rw [update_self]
  unfold preHandlePlayBehavior behaviorOf
  cases playBehavior with
  | missing => exact hbehavior .replaceAll
  | invalid => exact outcome_fail h _
  | string =>
    dsimp only
    split
    · next hnone =>
      rw [hnone]
      exact outcome_fail h _
    · next b hsome =>
      rw [hsome]
      exact hbehavior b

theorem outcome_url (speak : Speak)
    (payload : SpeakPayload) : Outcome directive a s (queuedUrl payload) (t.preHandleUrl directive speak payload a) := by
  unfold preHandleUrl queuedUrl
  cases payload.url with
  | missing | invalid => exact outcome_fail h _
  | string =>
    dsimp only
    split
    · next hnone =>
      rw [hnone]
      exact outcome_fail h _
    · next content hsome =>
      rw [hsome]
      have hread : Reads fun info => {info with attachmentReader := speak.attachments content} :=
        fun _ => ⟨rfl,rfl,rfl⟩
      split
      · exact outcome_playBehavior (h.read hread) _
      · exact outcome_playBehavior ((h.read hread).fail _) _

theorem outcome_format (speak : Speak) (payload : SpeakPayload) :
    Outcome directive a s (queuedFormat payload) (t.preHandleFormat directive speak payload a) := by
  unfold preHandleFormat queuedFormat
  cases payload.format with
  | missing | invalid => exact outcome_fail h _
  | string =>
    dsimp only
    split
    · exact outcome_url (h.fail _) speak payload
    · exact outcome_url h speak payload

end

theorem outcome_preHandle (s : Synthesizer) (speak : Speak) :
    Outcome directive a s (queuedBehavior speak) (s.executePreHandleAfterValidation directive speak a) := by
  have h : Prepared directive a.stops s s := .start
  unfold executePreHandleAfterValidation queuedBehavior
  split
  · exact outcome_fail h _
  split
  · next hnone =>
    rw [hnone]
    exact outcome_fail h _
  · next payload hsome =>
    rw [hsome,bind_some]
    unfold queuedToken
    cases payload.token with
    | missing | invalid => exact outcome_fail h _
    | string token =>
      have hread : Reads fun info => {info with token := token} := fun _ => ⟨rfl,rfl,rfl⟩
      exact outcome_format (h.read hread) speak payload

def CurrentSafe (s : Synthesizer) : Prop := ∀ current,s.currentInfo=some current → Safe s current

theorem safe_stopPlaying (h : CurrentSafe s) (stops : Bool) : CurrentSafe (s.stopPlaying stops) := by
  unfold stopPlaying
  split
  · exact h
  split
  · exact h
  split
  · exact h
  · cases hcurrent : s.currentInfo with
    | none =>
      rw [executePlaybackError_none hcurrent]
      exact h
    | some =>
      obtain ⟨_,_,_,heq⟩ := executePlaybackError_eq hcurrent "stopFailed"
      rw [heq]
      exact nofun

theorem safe_updateInfo (h : Safe s current) (directive : ℕ) {f : SpeakDirectiveInfo → SpeakDirectiveInfo}
    (hinitiated : ∀ info,info.isPlaybackInitiated=true → (f info).isPlaybackInitiated=true) :
    Safe (s.updateInfo directive f) current := by
  refine h.imp (fun hflag => ?_) id
  exact update_rel (R := fun info info' : SpeakDirectiveInfo => info.isPlaybackInitiated=true → info'.isPlaybackInitiated=true)
    (fun _ => id) (hinitiated _) current hflag

theorem safe_sendException (h : CurrentSafe s) (directive : ℕ) (message : String) (stops : Bool) :
    CurrentSafe (s.sendExceptionEncounteredAndReportFailed directive message stops) := by
  have hconclude : CurrentSafe (s.conclude directive (.failed directive message)) :=
    fun current hcurrent => safe_conclude (h current hcurrent) directive (.inr ⟨message,rfl⟩)
  unfold sendExceptionEncounteredAndReportFailed
  dsimp only
  split
  · refine safe_stopPlaying (fun current hcurrent => ?_) stops
    exact safe_updateInfo (hconclude current hcurrent) directive (fun _ => id)
  · exact hconclude

section

variable (h : Prepared directive stops s t)
include h

theorem effect_prepared : Effect s t := by
  induction h with
  | start => exact Effect.refl s
  | @read t _ f reads ih =>
    refine ih.trans (effect_updateInfo t directive f (reads _).1 ?_)
    intro hflag
    rw [(reads _).2.1] at hflag
    exact .inl hflag
  | fail _ message ih => exact ih.trans (effect_sendException _ directive message stops)

theorem speaking_prepared (hs : Speaking s) : Speaking t := by
  induction h with
  | start => exact hs
  | read _ reads ih =>
    refine ih.updateInfo directive _ (fun info => (reads info).1) ?_
    intro info hflag
    rw [(reads info).2.2] at hflag
    exact hflag
  | fail _ message ih => exact speaking_sendException ih directive message stops

theorem safe_prepared (hs : CurrentSafe s) : CurrentSafe t := by
  induction h with
  | start => exact hs
  | read _ reads ih =>
    refine fun current hcurrent => safe_updateInfo (ih current hcurrent) directive ?_
    intro info hflag
    rw [(reads info).2.2]
    exact hflag
  | fail _ message ih => exact safe_sendException ih directive message stops

end

theorem effect_executePreHandleAfterValidation {speak : Speak}
    (hacquires : a.acquiresChannel=true) (hsafe : queuedBehavior speak=some .replaceAll → CurrentSafe s) :
    ∃ t,Effect s t ∧ ((s.executePreHandleAfterValidation directive speak a=t ∧ Answered t directive) ∨
        Effect (enter t directive) (s.executePreHandleAfterValidation directive speak a)) := by
  obtain ⟨t,hprepared,⟨_,hanswered,heq⟩|⟨hqueued,heq⟩⟩ := @outcome_preHandle directive a s speak
  · exact ⟨t,effect_prepared hprepared,.inl ⟨heq,hanswered⟩⟩
  · refine ⟨t,effect_prepared hprepared,.inr ?_⟩
    rw [heq]
    refine effect_addToDirectiveQueue hacquires (fun current hcurrent hbehavior => ?_)
    rw [hbehavior] at hqueued
    exact safe_prepared hprepared (hsafe hqueued) current hcurrent

theorem speaking_executePreHandleAfterValidation (h : Speaking s)
    (hacquires : a.acquiresChannel=true) (speak : Speak) (hnew : (s.info directive).isHandled=false) :
    Speaking (s.executePreHandleAfterValidation directive speak a) := by
  obtain ⟨t,hprepared,⟨_,_,heq⟩|⟨_,heq⟩⟩ := @outcome_preHandle directive a s speak
  · rw [heq]
    exact speaking_prepared hprepared h
  · rw [heq]
    refine speaking_addToDirectiveQueue (speaking_prepared hprepared h) hacquires ?_
    rw [(effect_prepared hprepared).handled directive]
    exact hnew

/-- A source whose end is owed, or nothing to be said. -/
theorem speaking_startPlaying (hcurrent : s.currentInfo=some current) (hhandled : HandledFirst s.info s.speakInfoQueue)
    (hinitiated : ∀ directive,(s.info directive).isPlaybackInitiated=true → directive=current) :
    Speaking (s.startPlaying current a) := by
  have hinitiated' : ∀ directive,((s.updateInfo current fun info => {info with attachmentReader := false}).info
      directive).isPlaybackInitiated=true → directive=current := by
    intro directive hflag
    exact hinitiated directive ((update_keeps isPlaybackInitiated (by rfl) directive).symm.trans hflag)
  unfold startPlaying
  split
  · split
    · refine ⟨?_,?_,?_,?_,?_,?_⟩
      · intro _
        exact .inl ⟨s.sources,rfl,.inl mem_cons_self⟩
      · intro _ hnone
        cases hcurrent.symm.trans hnone
      · exact nofun
      · intro directive hflag
        have heq : directive=current := hinitiated' directive hflag
        rw [heq]
        refine ⟨hcurrent,fun hnone => ?_⟩
        cases hnone
      · exact hhandled.mono (List.Sublist.refl _) (update_keeps isHandled (by rfl))
      · intro hnone
        cases hcurrent.symm.trans hnone
    · apply speaking_executePlaybackError_some
      · exact hcurrent
      · exact hinitiated'
  · apply speaking_executePlaybackError_some
    · exact hcurrent
    · exact hinitiated'

section

variable (s)

theorem effect_startPlaying (current : ℕ) (a : Answers) : Effect s (s.startPlaying current a) := by
  have hread : Effect s (s.updateInfo current fun info => {info with attachmentReader := false}) :=
    effect_updateInfo s current _ rfl .inl
  unfold startPlaying
  split
  · have hsource : Effect s {s.updateInfo current fun info => {info with attachmentReader := false} with
        mediaSourceId := some s.sources
        sources := s.sources+1} := hread.trans (Effect.of_core rfl)
    have hplayed := hsource.trans (effect_note _ (.played current (s.info current).attachmentReader))
    split
    · exact hplayed.trans (Effect.of_core rfl)
    · exact hplayed.trans (effect_executePlaybackError _ _)
  · have hunset : Effect s {s.updateInfo current fun info => {info with attachmentReader := false} with
        mediaSourceId := none} := hread.trans (Effect.of_core rfl)
    exact hunset.trans (effect_executePlaybackError _ _)

theorem answered_interrupt (current : ℕ) : Answered (s.interrupt current) current :=
  .inr ⟨_,mem_concat_self⟩

theorem effect_interrupt (current : ℕ) : Effect s (s.interrupt current) := by
  have hnote := effect_note s (.failed current "Stopped due to SpeechSynthesizer going into INTERRUPTED state.")
  exact hnote.trans (effect_updateInfo _ current _ rfl (fun _ => .inr (answered_interrupt s current)))

theorem initiate_info (current directive : ℕ) :
    ((s.initiate current).info directive).isHandled=(s.info directive).isHandled ∧
      (directive≠current → (s.initiate current).info directive=s.info directive) :=
  ⟨update_keeps isHandled (by rfl) directive,fun hne => update_of_ne hne _ _⟩

theorem interrupt_info (current directive : ℕ) :
    ((s.interrupt current).info directive).isHandled=(s.info directive).isHandled ∧
      ((s.interrupt current).info directive).isPlaybackInitiated=(s.info directive).isPlaybackInitiated :=
  ⟨update_keeps isHandled (by rfl) directive, update_keeps isPlaybackInitiated (by rfl) directive⟩

end

variable {rest : List Task} {task : Task}

/-- A task that does not end the source leaves its end owed or told. -/
theorem sourced_pop (h : Sourced s) (htasks : s.tasks=task::rest)
    (hends : ∀ id,¬Ends id task) : Sourced {s with tasks := rest} := by
  obtain ⟨id,hsource,howed|⟨other,hother,hothers⟩⟩ := h
  · exact ⟨id,hsource,.inl howed⟩
  · rw [htasks] at hother
    obtain heq|hrest := mem_cons.mp hother
    · rw [heq] at hothers
      exact (hends id hothers).elim
    · exact ⟨id,hsource,.inr ⟨other,hrest,hothers⟩⟩

section

variable (s)

theorem effect_executeStateChange (newState : SpeechSynthesizerState)
    (hacquires : a.acquiresChannel=true) : Effect s (s.executeStateChange newState a) := by
  unfold executeStateChange
  split
  · exact Effect.refl s
  next current hcurrent =>
  cases newState with
  | PLAYING =>
    have hinitiate : Effect s (s.initiate current) := effect_updateInfo s current _ rfl .inl
    exact hinitiate.trans (effect_startPlaying _ current a)
  | INTERRUPTED =>
    have hinterrupt := effect_interrupt s current
    dsimp only
    split
    · exact hinterrupt.trans (effect_stopPlaying _ a.stops)
    · have hready : Effect s {s.interrupt current with desiredState := .INTERRUPTED} :=
        hinterrupt.trans (Effect.of_core rfl)
      refine hready.trans (effect_executePlaybackFinished ?_ hacquires (.inr (.inl (answered_interrupt s current))))
      exact hcurrent
  | FINISHED | GAINING_FOCUS | LOSING_FOCUS => exact Effect.refl s

theorem effect_executeStateChangeTimeout (a : Answers) : Effect s (s.executeStateChangeTimeout a) := by
  unfold executeStateChangeTimeout
  split
  · exact Effect.refl s
  split
  · exact effect_sendException s _ _ a.stops
  · exact Effect.refl s

theorem effect_onPlaybackStarted (id : SourceId) : Effect s (s.onPlaybackStarted id) := by
  unfold onPlaybackStarted
  split
  · exact effect_executePlaybackError s _
  unfold executePlaybackStarted
  split
  · exact Effect.refl s
  have hstarted : Effect s {s with
      currentState := .PLAYING
      desiredState := .FINISHED} := Effect.of_core rfl
  dsimp only
  split
  · exact hstarted.trans (effect_note _ _)
  · exact hstarted

/-- A current directive is told in time that it is done with. -/
def Tells : Prop :=
  ∀ current,s.currentInfo=some current → (s.info current).sendCompletedMessage=true ∨ Done s current

end

section

variable (h : Speaking s)
include h

/-- A task that neither ends the source nor changes the state may be taken. -/
theorem speaking_pop (htasks : s.tasks=task::rest) (hends : ∀ id,¬Ends id task) (hplaying : task≠.stateChange .PLAYING)
    (hinterrupted : task≠.stateChange .INTERRUPTED) : Speaking {s with tasks := rest} := by
  refine ⟨?_,h.source,h.playing,h.initiated,h.handled,h.idle⟩
  intro hcurrent
  obtain hsourced|⟨hbeginning,hasked|hchange|hchange⟩ := h.current hcurrent
  · exact .inl (sourced_pop hsourced htasks hends)
  · exact .inr ⟨hbeginning,.inl hasked⟩
  · rw [htasks] at hchange
    have hrest := (mem_cons.mp hchange).resolve_left (fun heq => hplaying heq.symm)
    exact .inr ⟨hbeginning,.inr (.inl hrest)⟩
  · rw [htasks] at hchange
    have hrest := (mem_cons.mp hchange).resolve_left (fun heq => hinterrupted heq.symm)
    exact .inr ⟨hbeginning,.inr (.inr hrest)⟩

theorem speaking_of_idle (hcurrent : s.currentInfo=none) (rest : List Task) : Speaking {s with tasks := rest} :=
  ⟨fun hsome => (hsome hcurrent).elim,h.source,h.playing,h.initiated,h.handled,h.idle⟩

theorem speaking_captured (captured : Option ℕ) : Speaking {s with captured := captured} :=
  ⟨h.current,h.source,h.playing,h.initiated,h.handled,h.idle⟩

theorem Speaking.initiated_eq (hcurrent : s.currentInfo=some current)
    (hflag : (s.info directive).isPlaybackInitiated=true) : directive=current :=
  some.inj ((h.initiated directive hflag).1.symm.trans hcurrent)

theorem speaking_executeStateChange {newState : SpeechSynthesizerState}
    (htasks : s.tasks=.stateChange newState::rest) (hacquires : a.acquiresChannel=true) :
    Speaking ({s with
      tasks := rest
      captured := s.currentInfo}.executeStateChange newState a) := by
  unfold executeStateChange
  split
  · next hnone => exact speaking_captured (speaking_of_idle h hnone rest) s.currentInfo
  next current hcurrent =>
  have hcurrent' : s.currentInfo=some current := hcurrent
  cases newState with
  | PLAYING =>
    apply speaking_startPlaying
    · exact hcurrent
    · exact h.handled.mono (List.Sublist.refl _) (fun directive => (initiate_info _ current directive).1)
    · intro directive hflag
      by_contra hne
      rw [(initiate_info _ current directive).2 hne] at hflag
      exact hne (h.initiated_eq hcurrent' hflag)
  | INTERRUPTED =>
    dsimp only
    split
    · next hinitiated =>
      rw [(interrupt_info _ current current).2] at hinitiated
      have hsource : s.mediaSourceId≠none := (h.initiated current hinitiated).2
      apply speaking_stopPlaying
      refine ⟨?_,h.source,h.playing,?_,?_,?_⟩
      · intro hsome
        obtain hsourced|⟨hbeginning,_⟩ := h.current hsome
        · have hkept : Sourced {s with tasks := rest} := sourced_pop hsourced htasks (fun _ hends => hends)
          exact .inl hkept
        · exact (hsource hbeginning.1).elim
      · intro directive hflag
        rw [(interrupt_info _ current directive).2] at hflag
        exact h.initiated directive hflag
      · exact h.handled.mono (List.Sublist.refl _) (fun directive => (interrupt_info _ current directive).1)
      · intro hnone
        cases hcurrent.symm.trans hnone
    · apply speaking_executePlaybackFinished
      · exact hcurrent
      · exact hacquires
      · exact h.handled.mono (List.Sublist.refl _) (fun directive => (interrupt_info _ current directive).1)
      · intro directive hflag
        rw [(interrupt_info _ current directive).2] at hflag
        exact h.initiated_eq hcurrent' hflag
  | FINISHED | GAINING_FOCUS | LOSING_FOCUS =>
    exact speaking_captured (speaking_pop h htasks (fun _ hends => hends) (by simp) (by simp)) s.currentInfo

theorem speaking_executeStateChangeTimeout (a : Answers) : Speaking (s.executeStateChangeTimeout a) := by
  unfold executeStateChangeTimeout
  split
  · exact h
  split
  · exact speaking_sendException h _ _ a.stops
  · exact h

theorem speaking_onPlaybackStarted (id : SourceId) : Speaking (s.onPlaybackStarted id) := by
  unfold onPlaybackStarted
  split
  · exact speaking_executePlaybackError h _
  next hid =>
  rw [Decidable.not_not] at hid
  have hsource : s.mediaSourceId≠none := by
    rw [hid]
    exact some_ne_none id
  unfold executePlaybackStarted
  split
  · exact h
  next current hcurrent =>
  have hstarted : Speaking {s with
      currentState := .PLAYING
      desiredState := .FINISHED} := by
    refine ⟨?_,h.source,fun _ => hsource,h.initiated,h.handled,h.idle⟩
    intro hsome
    obtain hsourced|⟨hbeginning,_⟩ := h.current hsome
    · exact .inl hsourced
    · exact (hsource hbeginning.1).elim
  dsimp only
  split
  · exact hstarted.info _ (fun _ => rfl) (fun _ hflag => hflag)
  · exact hstarted

/-- A task that ends a source is taken: an error leaves nothing to be said. -/
theorem speaking_error_pop (rest : List Task) (error : String) :
    Speaking ({s with tasks := rest}.executePlaybackError error) := by
  obtain hcurrent|⟨current,hcurrent⟩ := eq_none_or_eq_some s.currentInfo
  · have hpopped : ({s with tasks := rest} : Synthesizer).currentInfo=none := hcurrent
    rw [executePlaybackError_none hpopped]
    exact speaking_of_idle h hcurrent rest
  · apply speaking_executePlaybackError_some
    · exact hcurrent
    · exact fun directive hflag => h.initiated_eq hcurrent hflag

theorem speaking_finish_pop (rest : List Task)
    (hcurrent : s.currentInfo=some current) (hacquires : a.acquiresChannel=true) :
    Speaking ({s with tasks := rest}.executePlaybackFinished a) := by
  apply speaking_executePlaybackFinished
  · exact hcurrent
  · exact hacquires
  · exact h.handled
  · exact fun directive hflag => h.initiated_eq hcurrent hflag

theorem speaking_onPlaybackFinished (rest : List Task) (id : SourceId)
    (hacquires : a.acquiresChannel=true) : Speaking ({s with tasks := rest}.onPlaybackFinished id a) := by
  unfold onPlaybackFinished
  split
  · exact speaking_error_pop h rest _
  next hid =>
  rw [Decidable.not_not] at hid
  have hid' : s.mediaSourceId=some id := hid
  obtain hcurrent|⟨current,hcurrent⟩ := eq_none_or_eq_some s.currentInfo
  · have hsource : s.mediaSourceId≠none := by
      rw [hid']
      exact some_ne_none id
    exact (h.source hsource hcurrent).elim
  · exact speaking_finish_pop h rest hcurrent hacquires

end

variable {id : SourceId}

theorem effect_onPlaybackFinished (htells : s.mediaSourceId=some id → Tells s)
    (hacquires : a.acquiresChannel=true) : Effect s (s.onPlaybackFinished id a) := by
  unfold onPlaybackFinished
  split
  · exact effect_executePlaybackError s _
  next hid =>
  rw [Decidable.not_not] at hid
  cases hcurrent : s.currentInfo with
  | none =>
    unfold executePlaybackFinished
    split
    · exact Effect.refl s
    · next other hother => cases hcurrent.symm.trans hother
  | some current => exact effect_executePlaybackFinished hcurrent hacquires (htells hid current hcurrent)

theorem effect_tellStopped (s : Synthesizer) (current : ℕ) (hflagged : Flagged s) :
    Effect s (s.tellStopped current) ∧ Answered (s.tellStopped current) current := by
  have hmuted : Effect s (s.updateInfo current fun info => {info with sendCompletedMessage := false}) :=
    effect_updateInfo s current _ rfl .inl
  unfold tellStopped
  dsimp only
  split
  · next hflag => exact ⟨hmuted,hmuted.flagged hflagged current hflag⟩
  · have hnoted := hmuted.trans (effect_note _ (.failed current "Stopped due to MediaPlayer stopping."))
    have hanswered : Answered ((s.updateInfo current fun info => {info with sendCompletedMessage := false}).note
        (.failed current "Stopped due to MediaPlayer stopping.")) current :=
      .inr ⟨_,mem_concat_self⟩
    have hflag := effect_updateInfo _ current (fun info => {info with isSetFailedCalled := true}) rfl
      (fun _ => .inr hanswered)
    exact ⟨hnoted.trans hflag,hflag.answered hanswered⟩

theorem tellStopped_eq (s : Synthesizer) (current : ℕ) :
    ∃ info history,(∀ directive,(info directive).isHandled=(s.info directive).isHandled ∧
      (info directive).isPlaybackInitiated=(s.info directive).isPlaybackInitiated) ∧
      s.tellStopped current={s with
        info := info
        history := history} := by
  have hinfo : ∀ (s : Synthesizer) (f : SpeakDirectiveInfo → SpeakDirectiveInfo),
      (∀ info,(f info).isHandled=info.isHandled ∧ (f info).isPlaybackInitiated=info.isPlaybackInitiated) →
      ∀ directive,((s.updateInfo current f).info directive).isHandled=(s.info directive).isHandled ∧
        ((s.updateInfo current f).info directive).isPlaybackInitiated=(s.info directive).isPlaybackInitiated :=
    fun s f hf directive => ⟨update_keeps isHandled (hf _).1 directive,
      update_keeps isPlaybackInitiated (hf _).2 directive⟩
  have hmuted := hinfo s (fun info => {info with sendCompletedMessage := false}) (fun _ => ⟨rfl,rfl⟩)
  unfold tellStopped
  dsimp only
  split
  · exact ⟨_,_,hmuted,rfl⟩
  · refine ⟨_,_,fun directive => ?_,rfl⟩
    have hflag := hinfo ((s.updateInfo current fun info => {info with sendCompletedMessage := false}).note
      (.failed current "Stopped due to MediaPlayer stopping.")) (fun info => {info with isSetFailedCalled := true})
      (fun _ => ⟨rfl,rfl⟩) directive
    exact ⟨hflag.1.trans (hmuted directive).1,hflag.2.trans (hmuted directive).2⟩

theorem speaking_onPlaybackStopped (h : Speaking s) (rest : List Task) (id : SourceId)
    (hacquires : a.acquiresChannel=true) : Speaking ({s with tasks := rest}.onPlaybackStopped id a) := by
  unfold onPlaybackStopped
  split
  · exact speaking_error_pop h rest _
  next current hcurrent =>
  split
  · exact speaking_error_pop h rest _
  · obtain ⟨info,history,hinfo,heq⟩ := tellStopped_eq {s with tasks := rest} current
    rw [heq]
    have hkept : Speaking {s with
        info := info
        history := history} :=
      h.info history (fun directive => (hinfo directive).1) (fun directive hflag => by
        rw [(hinfo directive).2] at hflag
        exact hflag)
    exact speaking_finish_pop hkept rest hcurrent hacquires

theorem effect_onPlaybackStopped (hflagged : Flagged s)
    (hacquires : a.acquiresChannel=true) : Effect s (s.onPlaybackStopped id a) := by
  unfold onPlaybackStopped
  split
  · exact effect_executePlaybackError s _
  next current hcurrent =>
  split
  · exact effect_executePlaybackError s _
  · obtain ⟨heffect,hanswered⟩ := effect_tellStopped s current hflagged
    refine heffect.trans (effect_executePlaybackFinished ?_ hacquires (.inr (.inl hanswered)))
    obtain ⟨info,history,_,heq⟩ := tellStopped_eq s current
    rw [heq]
    exact hcurrent

theorem speaking_executeOnDialogUXStateChanged (h : Speaking s) (newState : TemplateRuntime.DialogUXState) :
    Speaking (s.executeOnDialogUXStateChanged newState) := by
  unfold executeOnDialogUXStateChanged
  split
  · exact ⟨h.current,h.source,h.playing,h.initiated,h.handled,h.idle⟩
  split
  · exact h
  split
  · have hrequest := h.request .release
    exact ⟨hrequest.current,h.source,h.playing,h.initiated,h.handled,h.idle⟩
  · exact h

section

variable (s)

theorem effect_executeOnDialogUXStateChanged (newState : TemplateRuntime.DialogUXState) :
    Effect s (s.executeOnDialogUXStateChanged newState) := by
  unfold executeOnDialogUXStateChanged
  split
  · exact Effect.of_core rfl
  split
  · exact Effect.refl s
  split
  · exact Effect.of_core rfl
  · exact Effect.refl s

theorem executeHandle_cases (directive : ℕ) (hacquires : a.acquiresChannel=true) :
    (s.currentInfo≠none ∧ s.executeHandleAfterValidation directive a=mark s directive) ∨
    (s.currentInfo=none ∧ s.speakInfoQueue.head?≠some directive ∧ s.executeHandleAfterValidation directive a =
      (mark s directive).sendExceptionEncounteredAndReportFailed directive ("UnexpectedId " ++ toString directive)
        a.stops) ∨ ∃ rest,s.currentInfo=none ∧ s.speakInfoQueue=directive::rest ∧
      s.executeHandleAfterValidation directive a=begin (mark s directive) directive rest := by
  obtain hcurrent|⟨current,hcurrent⟩ := eq_none_or_eq_some s.currentInfo
  · right
    by_cases hfront : s.speakInfoQueue.head?=some directive
    · obtain ⟨rest,hqueue⟩ := List.head?_eq_some_iff.mp hfront
      exact .inr ⟨rest,hcurrent,hqueue,executeHandle_front hcurrent hqueue hacquires⟩
    · refine .inl ⟨hcurrent,hfront,?_⟩
      have hnone : (mark s directive).currentInfo.isSome=false := congrArg isSome hcurrent
      have hfront' : (mark s directive).speakInfoQueue.head?≠some directive := hfront
      unfold executeHandleAfterValidation
      dsimp only
      unfold mark at hnone hfront'
      rw [hnone,if_neg Bool.false_ne_true,if_pos hfront']
      rfl
  · left
    have hsome : (mark s directive).currentInfo.isSome=true := congrArg isSome hcurrent
    refine ⟨?_,?_⟩
    · rw [hcurrent]
      exact some_ne_none current
    · unfold executeHandleAfterValidation
      dsimp only
      unfold mark at hsome
      rw [hsome,if_pos rfl]
      rfl

/-- The directives ahead of one in the queue were handled. -/
def InTurn (directive : ℕ) : Prop :=
  ∀ ahead behind,s.speakInfoQueue=ahead++directive::behind → ∀ earlier∈ahead,(s.info earlier).isHandled=true

theorem handledFirst_iff {info : ℕ → SpeakDirectiveInfo} :
    HandledFirst info queue ↔ ∀ ahead later behind,queue=ahead++later::behind →
      (info later).isHandled=true → ∀ earlier∈ahead,(info earlier).isHandled=true := by
  constructor
  · intro h ahead later behind hqueue hlater earlier hearlier
    rw [hqueue] at h
    exact (pairwise_append.mp h).2.2 earlier hearlier later mem_cons_self hlater
  · intro h
    induction queue with
    | nil => exact List.Pairwise.nil
    | cons head tail ih =>
      refine pairwise_cons.mpr ⟨?_,ih ?_⟩
      · intro later hmem hlater
        obtain ⟨ahead,behind,hsplit⟩ := append_of_mem hmem
        exact h (head::ahead) later behind (congrArg (head :: ·) hsplit) hlater head mem_cons_self
      · intro ahead later behind hsplit hlater earlier hearlier
        exact h (head::ahead) later behind (congrArg (head :: ·) hsplit) hlater earlier (mem_cons_of_mem _ hearlier)

theorem mark_isHandled (directive other : ℕ) :
    ((mark s directive).info other).isHandled=true ↔ other=directive ∨ (s.info other).isHandled=true := by
  unfold mark updateInfo
  dsimp only
  by_cases heq : other=directive
  · rw [heq,update_self]
    exact ⟨fun _ => .inl rfl,fun _ => rfl⟩
  · rw [update_of_ne heq]
    exact ⟨.inr,fun h => h.resolve_left heq⟩

end

theorem handledFirst_mark (h : HandledFirst s.info s.speakInfoQueue) (hturn : InTurn s directive) :
    HandledFirst (mark s directive).info s.speakInfoQueue := by
  rw [handledFirst_iff] at h ⊢
  intro ahead later behind hqueue hlater earlier hearlier
  rw [mark_isHandled] at hlater ⊢
  right
  obtain heq|hbefore := hlater
  · rw [heq] at hqueue
    exact hturn ahead behind hqueue earlier hearlier
  · exact h ahead later behind hqueue hbefore earlier hearlier

theorem speaking_executeHandle (h : Speaking s) (hturn : InTurn s directive)
    (hacquires : a.acquiresChannel=true) : Speaking (s.executeHandleAfterValidation directive a) := by
  have hfirst := handledFirst_mark h.handled hturn
  have hinitiated : ∀ other,((mark s directive).info other).isPlaybackInitiated=true →
      s.currentInfo=some other ∧ s.mediaSourceId≠none := by
    intro other hflag
    rw [mark_initiated] at hflag
    exact h.initiated other hflag
  obtain ⟨hsome,heq⟩|⟨hnone,hfront,heq⟩|⟨rest,hnone,hqueue,heq⟩ := executeHandle_cases s directive hacquires
  · rw [heq]
    exact ⟨h.current,h.source,h.playing,hinitiated,hfirst,fun hnone => (hsome hnone).elim⟩
  · rw [heq]
    apply speaking_sendException
    refine ⟨h.current,h.source,h.playing,hinitiated,hfirst,?_⟩
    intro _ other hother
    refine eq_false_iff.mpr fun hflag => ?_
    obtain hself|hbefore := (mark_isHandled s directive other).mp hflag
    · -- The directive would be in the queue behind one that was not handled.
      rw [hself] at hother
      obtain ⟨ahead,behind,hsplit⟩ := append_of_mem hother
      cases ahead with
      | nil =>
        refine hfront ?_
        rw [show s.speakInfoQueue=directive::behind from hsplit]
        rfl
      | cons first ahead =>
        have hhandled := hturn (first::ahead) behind hsplit first mem_cons_self
        have hmem : first∈s.speakInfoQueue := by
          rw [show s.speakInfoQueue=_ from hsplit]
          exact mem_cons_self
        rw [h.idle hnone first hmem] at hhandled
        cases hhandled
    · rw [h.idle hnone other hother] at hbefore
      cases hbefore
  · rw [heq]
    have hsource : s.mediaSourceId=none := by
      by_contra hsome
      exact h.source hsome hnone
    refine speaking_begin hsource (fun hplaying => h.playing hplaying hsource) ?_ ?_
    · rw [hqueue] at hfirst
      exact (pairwise_cons.mp hfirst).2
    · intro other
      refine eq_false_iff.mpr fun hflag => ?_
      rw [(hinitiated other hflag).1] at hnone
      cases hnone

theorem effect_executeHandle (s : Synthesizer) (directive : ℕ) (hacquires : a.acquiresChannel=true) :
    Effect (mark s directive) (s.executeHandleAfterValidation directive a) := by
  obtain ⟨_,heq⟩|⟨_,_,heq⟩|⟨rest,hnone,hqueue,heq⟩ := executeHandle_cases s directive hacquires
  · rw [heq]
    exact Effect.refl _
  · rw [heq]
    exact effect_sendException _ _ _ a.stops
  · rw [heq]
    exact effect_begin (s := mark s directive) hnone hqueue

/-- The tasks stand in the order in which they were submitted. -/
structure Orderly (s : Synthesizer) : Prop where
  /-- Directives that are to be handled were pre-handled, or are to be before. -/
  handles : ∀ directive,handle directive∈s.tasks → directive<s.directives
  counted : ∀ directive,(s.info directive).isHandled=true → directive<s.directives
  /-- A directive is not to be handled before it is pre-handled. -/
  order : s.tasks.Pairwise fun earlier later =>
    ∀ directive speak,later=preHandle directive speak → earlier≠handle directive
  unhandled : ∀ directive speak,preHandle directive speak∈s.tasks → (s.info directive).isHandled=false
  cancels : ∀ directive,cancel directive∈s.tasks → Cancelled s directive
  flagged : Flagged s

/-- Every directive is to be pre-handled, is done with, or is kept. -/
def Known (s : Synthesizer) : Prop :=
  ∀ directive<s.directives,(∃ speak,preHandle directive speak∈s.tasks) ∨ Settled s directive

/-- What is known between two steps. -/
structure Inv (s : Synthesizer) : Prop extends Speaking s,Orderly s where
  known : Known s

theorem Orderly.effect (h : Orderly s) (heffect : Effect s t) : Orderly t := by
  refine ⟨?_,?_,?_,?_,?_,heffect.flagged h.flagged⟩
  · rw [heffect.tasks,heffect.directives]
    exact h.handles
  · intro directive hflag
    rw [heffect.handled] at hflag
    rw [heffect.directives]
    exact h.counted directive hflag
  · rw [heffect.tasks]
    exact h.order
  · intro directive speak htask
    rw [heffect.tasks] at htask
    rw [heffect.handled]
    exact h.unhandled directive speak htask
  · intro directive htask
    rw [heffect.tasks] at htask
    exact heffect.history _ (h.cancels directive htask)

theorem Known.effect (h : Known s) (heffect : Effect s t) : Known t := by
  intro directive hless
  rw [heffect.directives] at hless
  rw [heffect.tasks]
  obtain htask|hsettled := h directive hless
  · exact .inl htask
  · exact .inr (heffect.settled directive hsettled)

theorem Orderly.pop (h : Orderly s) (htasks : s.tasks=task::rest) : Orderly {s with tasks := rest} := by
  have hmem : ∀ other∈rest,other∈s.tasks := by
    intro other hother
    rw [htasks]
    exact mem_cons_of_mem _ hother
  have horder := h.order
  rw [htasks] at horder
  exact ⟨fun directive htask => h.handles directive (hmem _ htask),h.counted,(pairwise_cons.mp horder).2,
    fun directive speak htask => h.unhandled directive speak (hmem _ htask),
    fun directive htask => h.cancels directive (hmem _ htask),h.flagged⟩

theorem Known.pop (h : Known s) (htasks : s.tasks=task::rest) :
    ∀ directive<s.directives,(∃ speak,task=.preHandle directive speak) ∨
      (∃ speak,preHandle directive speak∈rest) ∨ Settled s directive := by
  intro directive hless
  obtain ⟨speak,htask⟩|hsettled := h directive hless
  · rw [htasks] at htask
    obtain heq|hrest := mem_cons.mp htask
    · exact .inl ⟨speak,heq.symm⟩
    · exact .inr (.inl ⟨speak,hrest⟩)
  · exact .inr (.inr hsettled)

theorem Known.pop_of_ne (h : Known s) (htasks : s.tasks=task::rest)
    (hne : ∀ directive speak,task≠.preHandle directive speak) : Known {s with tasks := rest} := by
  intro directive hless
  obtain ⟨speak,heq⟩|hknown := h.pop htasks directive hless
  · exact (hne directive speak heq).elim
  · exact hknown

theorem Orderly.mark (h : Orderly s) (hless : directive<s.directives)
    (hnone : ∀ speak,preHandle directive speak∉s.tasks) : Orderly (mark s directive) := by
  refine ⟨h.handles,?_,h.order,?_,h.cancels,?_⟩
  · intro other hflag
    obtain heq|hbefore := (mark_isHandled s directive other).mp hflag
    · rw [heq]
      exact hless
    · exact h.counted other hbefore
  · intro other speak htask
    refine eq_false_iff.mpr fun hflag => ?_
    obtain heq|hbefore := (mark_isHandled s directive other).mp hflag
    · rw [heq] at htask
      exact hnone speak htask
    · rw [h.unhandled other speak htask] at hbefore
      cases hbefore
  · intro other hflag
    exact h.flagged other ((update_keeps isSetFailedCalled (by rfl) other).symm.trans hflag)

/-- Acquisitions are accepted, directives in order, none replaces all but a played one, and playback that ends
is not stopped without a result. -/
def Fits (s : Synthesizer) (a : Answers) : Task → Prop
  | .preHandle _ speak => a.acquiresChannel=true ∧ (queuedBehavior speak=some .replaceAll → CurrentSafe s)
  | .handle directive => a.acquiresChannel=true ∧ InTurn s directive
  | .playbackFinished id => a.acquiresChannel=true ∧ (s.mediaSourceId=some id → Tells s)
  | _ => a.acquiresChannel=true

/-- Every task that is performed meets that. -/
def Allowed (s : Synthesizer) : Event → Prop
  | .perform a => ∀ task∈s.tasks.head?,Fits s a task
  | _ => True

theorem Fits.acquires (h : Fits s a task) : a.acquiresChannel=true := by
  cases task with
  | preHandle => exact h.1
  | handle => exact h.1
  | playbackFinished => exact h.1
  | cancel => exact h
  | stateChange => exact h
  | stateChangeTimeout => exact h
  | playbackStarted => exact h
  | playbackStopped => exact h
  | playbackError => exact h
  | dialogUXStateChanged => exact h

theorem Orderly.enter (h : Orderly s) (directive : ℕ) : Orderly (enter s directive) :=
  ⟨h.handles,h.counted,h.order,h.unhandled,h.cancels,h.flagged⟩

theorem settled_enter {other : ℕ} (h : other=directive ∨ Settled s other) : Settled (enter s directive) other := by
  obtain heq|hdone|hqueued|hcurrent := h
  · rw [heq]
    exact .inr (.inl mem_concat_self)
  · exact .inl hdone
  · exact .inr (.inl (mem_append_left _ hqueued))
  · exact .inr (.inr hcurrent)

theorem inv_preHandle {speak : Speak} (h : Inv s)
    (htasks : s.tasks=.preHandle directive speak::rest) (hfits : Fits s a (.preHandle directive speak)) :
    Inv ({s with tasks := rest}.executePreHandle directive speak a) := by
  have hmem : preHandle directive speak∈s.tasks := by
    rw [htasks]
    exact mem_cons_self
  have hspeaking : Speaking {s with tasks := rest} :=
    speaking_pop h.toSpeaking htasks (fun _ hends => hends) (by simp) (by simp)
  have hspeaking' := speaking_executePreHandleAfterValidation hspeaking hfits.1 speak (h.unhandled directive speak hmem)
  have horderly : Orderly {s with tasks := rest} := h.toOrderly.pop htasks
  have hknown : ∀ other<s.directives,(∃ speak,preHandle other speak∈rest) ∨
      other=directive ∨ Settled {s with tasks := rest} other := by
    intro other hless
    obtain ⟨speak',heq⟩|hrest|hsettled := h.known.pop htasks other hless
    · cases heq
      exact .inr (.inl rfl)
    · exact .inl hrest
    · exact .inr (.inr hsettled)
  have hsafe : queuedBehavior speak=some .replaceAll → CurrentSafe {s with tasks := rest} := hfits.2
  obtain ⟨t,heffect,⟨heq,hanswered⟩|hentered⟩ :=
    @effect_executePreHandleAfterValidation {s with tasks := rest} directive a speak hfits.1 hsafe
  · unfold executePreHandle
    rw [heq] at hspeaking' ⊢
    refine ⟨hspeaking',horderly.effect heffect,?_⟩
    intro other hless
    rw [heffect.directives] at hless
    rw [heffect.tasks]
    obtain hrest|hself|hsettled := hknown other hless
    · exact .inl hrest
    · rw [hself]
      exact .inr (.inl (.inl hanswered))
    · exact .inr (heffect.settled other hsettled)
  · refine ⟨hspeaking',((horderly.effect heffect).enter directive).effect hentered,?_⟩
    have hknown' : Known (enter t directive) := by
      intro other hless
      have hless' : other<t.directives := hless
      rw [heffect.directives] at hless'
      have htasks' : (enter t directive).tasks=rest := heffect.tasks
      rw [htasks']
      obtain hrest|hself|hsettled := hknown other hless'
      · exact .inl hrest
      · exact .inr (settled_enter (.inl hself))
      · exact .inr (settled_enter (.inr (heffect.settled other hsettled)))
    exact hknown'.effect hentered

theorem inv_handle (h : Inv s) (htasks : s.tasks=.handle directive::rest) (hfits : Fits s a (.handle directive)) :
    Inv ({s with tasks := rest}.executeHandleAfterValidation directive a) := by
  have hmem : handle directive∈s.tasks := by
    rw [htasks]
    exact mem_cons_self
  have hspeaking : Speaking {s with tasks := rest} :=
    speaking_pop h.toSpeaking htasks (fun _ hends => hends) (by simp) (by simp)
  have horder := h.order
  rw [htasks] at horder
  have hnone : ∀ speak,preHandle directive speak∉rest :=
    fun speak hlater => (pairwise_cons.mp horder).1 _ hlater directive speak rfl rfl
  have horderly : Orderly (mark {s with tasks := rest} directive) :=
    (h.toOrderly.pop htasks).mark (h.handles directive hmem) hnone
  have hknown : Known {s with tasks := rest} := h.known.pop_of_ne htasks (by simp)
  have heffect := effect_executeHandle {s with tasks := rest} directive hfits.1
  refine ⟨speaking_executeHandle hspeaking hfits.2 hfits.1,horderly.effect heffect,?_⟩
  have hmarked : Known (mark {s with tasks := rest} directive) := hknown
  exact hmarked.effect heffect

theorem inv_of_effect (h : Inv s) (htasks : s.tasks=task::rest)
    (hne : ∀ directive speak,task≠.preHandle directive speak) (heffect : Effect {s with tasks := rest} t)
    (hspeaking : Speaking t) : Inv t :=
  ⟨hspeaking,(h.toOrderly.pop htasks).effect heffect,(h.known.pop_of_ne htasks hne).effect heffect⟩

theorem inv_perform (h : Inv s) (hallowed : Allowed s (.perform a)) : Inv (s.perform a) := by
  unfold perform
  split
  · exact h
  next task rest htasks =>
  have hfits : Fits s a task := hallowed task (by rw [htasks]; exact rfl)
  have hacquires := hfits.acquires
  have hpop := speaking_pop h.toSpeaking htasks
  cases task with
  | preHandle => exact inv_preHandle h htasks hfits
  | handle => exact inv_handle h htasks hfits
  | cancel directive =>
    have hcancelled : Done s directive :=
      .inr (h.cancels directive (by rw [htasks]; exact mem_cons_self))
    have hspeaking : Speaking {s with tasks := rest} := hpop (fun _ hends => hends) (by simp) (by simp)
    refine inv_of_effect h htasks (by simp) ?_ (speaking_executeCancel hspeaking directive hacquires)
    exact effect_executeCancel hacquires (fun _ => hcancelled) (.inr hcancelled)
  | stateChange newState =>
    have hspeaking := speaking_executeStateChange h.toSpeaking htasks hacquires
    refine inv_of_effect h htasks (by simp) ?_ hspeaking
    have hcaptured : Effect {s with tasks := rest} {s with
        tasks := rest
        captured := s.currentInfo} := Effect.of_core rfl
    exact hcaptured.trans (effect_executeStateChange _ newState hacquires)
  | stateChangeTimeout =>
    have hspeaking : Speaking {s with tasks := rest} := hpop (fun _ hends => hends) (by simp) (by simp)
    exact inv_of_effect h htasks (by simp) (effect_executeStateChangeTimeout _ a)
      (speaking_executeStateChangeTimeout hspeaking a)
  | playbackStarted id =>
    have hspeaking : Speaking {s with tasks := rest} := hpop (fun _ hends => hends) (by simp) (by simp)
    exact inv_of_effect h htasks (by simp) (effect_onPlaybackStarted _ id) (speaking_onPlaybackStarted hspeaking id)
  | playbackFinished id =>
    refine inv_of_effect h htasks (by simp) ?_ (speaking_onPlaybackFinished h.toSpeaking rest id hacquires)
    exact effect_onPlaybackFinished hfits.2 hacquires
  | playbackStopped id =>
    refine inv_of_effect h htasks (by simp) ?_ (speaking_onPlaybackStopped h.toSpeaking rest id hacquires)
    exact effect_onPlaybackStopped (h.toOrderly.pop htasks).flagged hacquires
  | playbackError id error =>
    exact inv_of_effect h htasks (by simp) (effect_executePlaybackError _ error) (speaking_error_pop h.toSpeaking rest error)
  | dialogUXStateChanged newState =>
    have hspeaking : Speaking {s with tasks := rest} := hpop (fun _ hends => hends) (by simp) (by simp)
    exact inv_of_effect h htasks (by simp) (effect_executeOnDialogUXStateChanged _ newState)
      (speaking_executeOnDialogUXStateChanged hspeaking newState)

theorem speaking_submit (h : Speaking s) (task : Task) : Speaking (s.submit task) := by
  refine ⟨?_,h.source,h.playing,h.initiated,h.handled,h.idle⟩
  intro hcurrent
  obtain ⟨id,hsource,howed|⟨other,hother,hends⟩⟩|⟨hbeginning,hasked|hchange|hchange⟩ := h.current hcurrent
  · exact .inl ⟨id,hsource,.inl howed⟩
  · exact .inl ⟨id,hsource,.inr ⟨other,mem_append_left _ hother,hends⟩⟩
  · exact .inr ⟨hbeginning,.inl hasked⟩
  · exact .inr ⟨hbeginning,.inr (.inl (mem_append_left _ hchange))⟩
  · exact .inr ⟨hbeginning,.inr (.inr (mem_append_left _ hchange))⟩

theorem speaking_end (h : Speaking s) (hends : Ends id task) :
    Speaking ({s with owed := s.owed.erase id}.submit task) := by
  refine ⟨?_,h.source,h.playing,h.initiated,h.handled,h.idle⟩
  intro hcurrent
  obtain ⟨source,hsource,howed⟩|⟨hbeginning,hawaited⟩ := h.current hcurrent
  · refine .inl ⟨source,hsource,?_⟩
    by_cases heq : source=id
    · rw [heq]
      exact .inr ⟨task,mem_concat_self,hends⟩
    · obtain howed|⟨other,hother,hothers⟩ := howed
      · exact .inl ((mem_erase_of_ne heq).mpr howed)
      · exact .inr ⟨other,mem_append_left _ hother,hothers⟩
  · refine .inr ⟨hbeginning,?_⟩
    obtain hasked|hchange|hchange := hawaited
    · exact .inl hasked
    · exact .inr (.inl (mem_append_left _ hchange))
    · exact .inr (.inr (mem_append_left _ hchange))

theorem Orderly.submit (h : Orderly s) (hhandle : ∀ directive,task=.handle directive → directive<s.directives)
    (hcancel : ∀ directive,task=.cancel directive → Cancelled s directive)
    (hne : ∀ directive speak,task≠.preHandle directive speak) : Orderly (s.submit task) := by
  refine ⟨?_,h.counted,?_,?_,?_,h.flagged⟩
  · intro directive htask
    obtain hbefore|hlast := mem_append.mp htask
    · exact h.handles directive hbefore
    · exact hhandle directive (mem_singleton.mp hlast).symm
  · refine pairwise_append.mpr ⟨h.order,pairwise_singleton _ _,?_⟩
    intro earlier _ later hlater directive speak heq
    rw [mem_singleton.mp hlater] at heq
    exact (hne directive speak heq).elim
  · intro directive speak htask
    obtain hbefore|hlast := mem_append.mp htask
    · exact h.unhandled directive speak hbefore
    · exact (hne directive speak (mem_singleton.mp hlast).symm).elim
  · intro directive htask
    obtain hbefore|hlast := mem_append.mp htask
    · exact h.cancels directive hbefore
    · exact hcancel directive (mem_singleton.mp hlast).symm

theorem Known.submit (h : Known s) (task : Task) : Known (s.submit task) := by
  intro directive hless
  obtain ⟨speak,htask⟩|hsettled := h directive hless
  · exact .inl ⟨speak,mem_append_left _ htask⟩
  · exact .inr hsettled

/-- Of the media player, the dialog or the focus manager. -/
theorem Inv.submit (h : Inv s) (hhandle : ∀ directive,task≠.handle directive)
    (hcancel : ∀ directive,task≠.cancel directive) (hne : ∀ directive speak,task≠.preHandle directive speak) :
    Inv (s.submit task) :=
  ⟨speaking_submit h.toSpeaking task,h.toOrderly.submit (fun directive heq => (hhandle directive heq).elim)
    (fun directive heq => (hcancel directive heq).elim) hne,h.known.submit task⟩

theorem inv_end (h : Inv s) (hends : Ends id task) : Inv ({s with owed := s.owed.erase id}.submit task) := by
  have htask : (∀ directive,task≠.handle directive) ∧ (∀ directive,task≠.cancel directive) ∧
      ∀ directive speak,task≠.preHandle directive speak := by
    refine ⟨?_,?_,?_⟩
    · rintro directive rfl
      exact hends
    · rintro directive rfl
      exact hends
    · rintro directive speak rfl
      exact hends
  have hsubmitted := h.submit htask.1 htask.2.1 htask.2.2
  exact ⟨speaking_end h.toSpeaking hends,
    ⟨hsubmitted.handles,hsubmitted.counted,hsubmitted.order,hsubmitted.unhandled,hsubmitted.cancels,
      hsubmitted.flagged⟩,hsubmitted.known⟩

theorem onFocusChanged_eq (s : Synthesizer) (newFocus : FocusState) :
    ∃ state waiting tasks,s.onFocusChanged newFocus={s with
        currentFocus := newFocus
        currentState := state
        waiting := waiting
        tasks := tasks} ∧
      (tasks=s.tasks ∨ ∃ desiredState,tasks=s.tasks++[.stateChange desiredState]) := by
  unfold onFocusChanged
  dsimp only
  split
  · exact ⟨_,_,_,rfl,.inl rfl⟩
  · cases newFocus with
    | foreground => exact ⟨_,_,_,rfl,.inr ⟨_,rfl⟩⟩
    | background | none =>
      unfold awaitInterrupted
      dsimp only
      split
      · exact ⟨_,_,_,rfl,.inl rfl⟩
      · exact ⟨_,_,_,rfl,.inr ⟨_,rfl⟩⟩

theorem orderly_onFocusChanged (h : Orderly s) (hknown : Known s) (newFocus : FocusState) :
    Orderly (s.onFocusChanged newFocus) ∧ Known (s.onFocusChanged newFocus) := by
  obtain ⟨state,waiting,tasks,heq,hsame|⟨desiredState,hsubmitted⟩⟩ := onFocusChanged_eq s newFocus
  · rw [heq,hsame]
    exact ⟨⟨h.handles,h.counted,h.order,h.unhandled,h.cancels,h.flagged⟩,hknown⟩
  · rw [heq,hsubmitted]
    have hsubmit : Orderly (s.submit (.stateChange desiredState)) := h.submit (by simp) (by simp) (by simp)
    exact ⟨⟨hsubmit.handles,h.counted,hsubmit.order,hsubmit.unhandled,hsubmit.cancels,h.flagged⟩,
      hknown.submit (.stateChange desiredState)⟩

variable {requests : List ChannelRequest}

theorem speaking_answer (h : Speaking s) (focus : FocusState)
    (hkept : Beginning s → ChannelRequest.acquire∈s.requests → ChannelRequest.acquire∈requests) :
    Speaking {s with
      currentFocus := focus
      requests := requests} := by
  refine ⟨?_,h.source,h.playing,h.initiated,h.handled,h.idle⟩
  intro hcurrent
  obtain hsourced|⟨hbeginning,hasked|hchange⟩ := h.current hcurrent
  · exact .inl hsourced
  · exact .inr ⟨hbeginning,.inl (hkept hbeginning hasked)⟩
  · exact .inr ⟨hbeginning,.inr hchange⟩

theorem speaking_await (h : Speaking s) (focus : FocusState) (requests : List ChannelRequest)
    {state desiredState : SpeechSynthesizerState} (waiting : Option SpeechSynthesizerState)
    (hstate : state=.PLAYING → s.currentState=.PLAYING)
    (hdesired : Beginning s → desiredState=.PLAYING ∨ desiredState=.INTERRUPTED) :
    Speaking {s with
      currentFocus := focus
      currentState := state
      requests := requests
      tasks := s.tasks++[.stateChange desiredState]
      waiting := waiting} := by
  refine ⟨?_,h.source,fun hplaying => h.playing (hstate hplaying),h.initiated,h.handled,h.idle⟩
  intro hcurrent
  obtain ⟨id,hsource,hends⟩|⟨hbeginning,_⟩ := h.current hcurrent
  · obtain howed|⟨other,hother,hothers⟩ := hends
    · exact .inl ⟨id,hsource,.inl howed⟩
    · exact .inl ⟨id,hsource,.inr ⟨other,mem_append_left _ hother,hothers⟩⟩
  · refine .inr ⟨⟨hbeginning.1,hbeginning.2.1,fun hplaying => hbeginning.2.2 (hstate hplaying)⟩,.inr ?_⟩
    have hlast : ∀ state,desiredState=state → stateChange state∈s.tasks++[.stateChange desiredState] := by
      intro state heq
      rw [heq]
      exact mem_concat_self
    exact (hdesired hbeginning).imp (hlast _) (hlast _)

variable {newFocus : FocusState}

theorem speaking_onFocusChanged (h : Speaking s)
    (hkept : newFocus=.none → ChannelRequest.acquire∈s.requests → ChannelRequest.acquire∈requests) :
    Speaking ({s with requests := requests}.onFocusChanged newFocus) := by
  unfold onFocusChanged
  dsimp only
  split
  · next hsame =>
    refine speaking_answer h newFocus (fun hbeginning => ?_)
    exact (hbeginning.2.2 (hsame.trans hbeginning.2.1)).elim
  cases newFocus with
  | foreground =>
    refine speaking_await h .foreground requests _ (fun hstate => ?_) (fun hbeginning => .inl hbeginning.2.1)
    cases hstate
  | background =>
    unfold awaitInterrupted
    rw [if_neg (by simp)]
    refine speaking_await h .background requests _ (fun hstate => ?_) (fun _ => .inr rfl)
    cases hstate
  | none =>
    unfold awaitInterrupted
    dsimp only
    split
    · exact speaking_answer h .none (fun _ => hkept rfl)
    · exact speaking_await h .none requests _ id (fun _ => .inr rfl)

theorem inv_onFocusChanged (h : Inv s)
    (hkept : newFocus=.none → ChannelRequest.acquire∈s.requests → ChannelRequest.acquire∈requests) :
    Inv ({s with requests := requests}.onFocusChanged newFocus) := by
  have horderly : Orderly {s with requests := requests} :=
    ⟨h.handles,h.counted,h.order,h.unhandled,h.cancels,h.flagged⟩
  obtain ⟨horderly',hknown⟩ := orderly_onFocusChanged horderly h.known newFocus
  exact ⟨speaking_onFocusChanged h.toSpeaking hkept,horderly',hknown⟩

theorem inv_preHandleDirective (h : Inv s) (speak : Speak) :
    Inv ({s with directives := s.directives+1}.submit (.preHandle s.directives speak)) := by
  have hspeaking := speaking_submit h.toSpeaking (.preHandle s.directives speak)
  refine ⟨⟨hspeaking.current,h.source,h.playing,h.initiated,h.handled,h.idle⟩,⟨?_,?_,?_,?_,?_,h.flagged⟩,?_⟩
  · intro directive htask
    obtain hbefore|hlast := mem_append.mp htask
    · exact Nat.lt_succ_of_lt (h.handles directive hbefore)
    · cases mem_singleton.mp hlast
  · exact fun directive hflag => Nat.lt_succ_of_lt (h.counted directive hflag)
  · refine pairwise_append.mpr ⟨h.order,pairwise_singleton _ _,?_⟩
    rintro earlier hearlier later hlater directive speak' heq rfl
    rw [mem_singleton.mp hlater] at heq
    cases heq
    exact Nat.lt_irrefl _ (h.handles _ hearlier)
  · intro directive speak' htask
    obtain hbefore|hlast := mem_append.mp htask
    · exact h.unhandled directive speak' hbefore
    · cases mem_singleton.mp hlast
      exact eq_false_iff.mpr fun hflag => Nat.lt_irrefl _ (h.counted _ hflag)
  · intro directive htask
    obtain hbefore|hlast := mem_append.mp htask
    · exact h.cancels directive hbefore
    · cases mem_singleton.mp hlast
  · intro directive hless
    obtain hbefore|hlast := Nat.lt_succ_iff_lt_or_eq.mp hless
    · exact h.known.submit (.preHandle s.directives speak) directive hbefore
    · rw [hlast]
      exact .inl ⟨speak,mem_concat_self⟩

theorem inv_next {event : Event} (h : Inv s) (hpossible : Possible s event) (hallowed : Allowed s event) :
    Inv (s.next event) := by
  cases event with
  | preHandleDirective speak => exact inv_preHandleDirective h speak
  | handleDirective =>
    refine ⟨speaking_submit h.toSpeaking _,h.toOrderly.submit ?_ (by simp) (by simp),h.known.submit _⟩
    intro other heq
    cases heq
    exact hpossible
  | cancelDirective directive =>
    have hnoted := effect_note s (.cancelled directive)
    have hspeaking : Speaking (s.note (.cancelled directive)) := h.toSpeaking.info _ (fun _ => rfl) (fun _ hflag => hflag)
    refine ⟨speaking_submit hspeaking _,(h.toOrderly.effect hnoted).submit (by simp) ?_ (by simp),
      (h.known.effect hnoted).submit _⟩
    intro other heq
    cases heq
    exact mem_concat_self
  | onDialogUXStateChanged | onPlaybackStarted => exact h.submit (by simp) (by simp) (by simp)
  | onPlaybackFinished | onPlaybackStopped | onPlaybackError => exact inv_end h rfl
  | acquired => exact inv_onFocusChanged h (fun hnone => (hpossible.2.1 hnone).elim)
  | released held =>
    have hkept : ChannelRequest.acquire∈s.requests → ChannelRequest.acquire∈s.requests.tail := by
      intro hasked
      obtain ⟨rest,hrequests⟩ := List.head?_eq_some_iff.mp hpossible.1
      rw [hrequests] at hasked ⊢
      exact (mem_cons.mp hasked).resolve_left nofun
    cases held with
    | true => exact inv_onFocusChanged h (fun _ => hkept)
    | false =>
      have hanswered := speaking_answer h.toSpeaking s.currentFocus (fun _ => hkept)
      exact ⟨hanswered,⟨h.handles,h.counted,h.order,h.unhandled,h.cancels,h.flagged⟩,h.known⟩
  | focusChanged => exact inv_onFocusChanged h (fun _ hasked => hasked)
  | stateChanged =>
    exact ⟨⟨h.current,h.source,h.playing,h.initiated,h.handled,h.idle⟩,
      ⟨h.handles,h.counted,h.order,h.unhandled,h.cancels,h.flagged⟩,h.known⟩
  | stateChangeTimeout =>
    have hsubmitted : Inv (s.submit .stateChangeTimeout) := h.submit (by simp) (by simp) (by simp)
    exact ⟨⟨hsubmitted.current,h.source,h.playing,h.initiated,h.handled,h.idle⟩,
      ⟨hsubmitted.handles,h.counted,hsubmitted.order,hsubmitted.unhandled,hsubmitted.cancels,h.flagged⟩,
      hsubmitted.known⟩
  | perform => exact inv_perform h hallowed

theorem inv_create : Inv create := by
  refine ⟨⟨?_,?_,?_,?_,List.Pairwise.nil,?_⟩,⟨?_,?_,List.Pairwise.nil,?_,?_,?_⟩,?_⟩
  · exact fun hsome => (hsome rfl).elim
  · exact fun hsome => (hsome rfl).elim
  · intro hplaying
    cases hplaying
  · intro directive hflag
    cases hflag
  · intro _ directive hmem
    cases hmem
  · intro directive htask
    cases htask
  · intro directive hflag
    cases hflag
  · intro directive speak htask
    cases htask
  · intro directive htask
    cases htask
  · intro directive hflag
    cases hflag
  · intro directive hless
    cases hless

theorem allowed_perform (htasks : s.tasks=task::rest) (hfits : Fits s a task) : Allowed s (.perform a) := by
  intro other hother
  rw [htasks] at hother
  cases hother
  exact hfits

/-- A directive that is to be spoken after the others. -/
def enqueued : Speak :=
  ⟨"Speak",some ⟨.string "token",.string "AUDIO_MPEG",.string "cid:speech",.string "ENQUEUE"⟩,fun _ => true⟩

/-- All calls succeed. -/
def granted : Answers := ⟨true,true,true,true⟩

end AlexaClientSDK.SpeechProgress
