import AlexaClientSDK.SpeechProgress

/-!
# Speak results are reported once

A directive has at most one result, one that was reported as failed is not played, and nothing is played without an
attachment reader. Most places do not ask whether there is a result: a payload may fail more than once, an interrupted
directive again when it cannot be stopped, and an error reports the current directive and the whole queue.
-/

namespace AlexaClientSDK.SpeakResults

open Nat Bool Option Function List LabelledRuns SpeechSynthesizer Synthesizer Updates SpeakDirectiveInfo Happening
open AudioPlayer (PlayBehavior ChannelRequest SourceId)
open FocusChannel (FocusState)
open SpeechProgress (Cleared cleared_update concludeAll_eq executePlaybackError_eq executePlaybackError_none
  clearPendingDirectives_eq tellFinished_eq resetCurrentInfo_eq executePlaybackFinished_eq mark enqueued granted)

variable {s t : Synthesizer} {N : ℕ → Prop} {F : List Task × ℕ}

def result : Happening → Option ℕ
  | .completed directive | .failed directive _ => some directive
  | .cancelled _ | .played _ _ | .sent _ _ => none

def results (history : List Happening) : List ℕ := history.filterMap result

structure Once (history : List Happening) : Prop where
  once : (results history).Nodup
  unfailed : history.Pairwise fun earlier later =>
    ∀ directive message reader,earlier=failed directive message → later≠.played directive reader
  read : ∀ directive reader,played directive reader∈history → reader=true

theorem results_append (history past : List Happening) : results (history++past)=results history++results past :=
  filterMap_append

variable {past : List Happening} {history : List Happening}

/-- More may happen, if the results are new and nothing is played. -/
theorem Once.append (h : Once history) (hnodup : (results past).Nodup)
    (hnew : ∀ directive∈results past,directive∉results history)
    (hsilent : ∀ directive reader,played directive reader∉past) : Once (history++past) := by
  refine ⟨?_,?_,?_⟩
  · rw [results_append]
    refine nodup_append.mpr ⟨h.once,hnodup,?_⟩
    rintro directive hbefore other hlater rfl
    exact hnew directive hlater hbefore
  · refine pairwise_append.mpr ⟨h.unfailed,?_,?_⟩
    · refine pairwise_of_forall_mem_list fun earlier _ later hlater => ?_
      rintro directive message reader _ rfl
      exact hsilent directive reader hlater
    · rintro earlier _ later hlater directive message reader _ rfl
      exact hsilent directive reader hlater
  · intro directive reader hmem
    obtain hbefore|hlater := mem_append.mp hmem
    · exact h.read directive reader hbefore
    · exact (hsilent directive reader hlater).elim

variable {directive : ℕ}

theorem Once.play (h : Once history) (hnew : directive∉results history) : Once (history++[.played directive true]) := by
  refine ⟨?_,?_,?_⟩
  · rw [results_append]
    exact (append_nil _).symm ▸ h.once
  · refine pairwise_append.mpr ⟨h.unfailed,pairwise_singleton _ _,?_⟩
    rintro earlier hearlier later hlater other message reader rfl hplayed
    rw [mem_singleton.mp hlater] at hplayed
    cases hplayed
    exact hnew (mem_filterMap.mpr ⟨_,hearlier,rfl⟩)
  · intro other reader hmem
    obtain hbefore|hlast := mem_append.mp hmem
    · exact h.read other reader hbefore
    · cases mem_singleton.mp hlast
      rfl

/-- A directive of which nothing is known yet. -/
structure New (s : Synthesizer) (directive : ℕ) : Prop where
  unanswered : directive∉results s.history
  unqueued : directive∉s.speakInfoQueue
  other : s.currentInfo≠some directive
  uninitiated : (s.info directive).isPlaybackInitiated=false

structure Waits (s : Synthesizer) (directive : ℕ) : Prop where
  unanswered : directive∉results s.history
  other : s.currentInfo≠some directive
  uninitiated : (s.info directive).isPlaybackInitiated=false
  reader : (s.info directive).attachmentReader=true

/-- What is known, where some directives are to come. -/
structure Sound (N : ℕ → Prop) (F : List Task × ℕ) (s : Synthesizer) : Prop where
  frame : (s.tasks,s.directives)=F
  history : Once s.history
  nodup : s.speakInfoQueue.Nodup
  queue : ∀ directive∈s.speakInfoQueue,Waits s directive
  /-- A current directive that has its result is not to be completed. -/
  muted : ∀ current,s.currentInfo=some current → current∈results s.history →
    (s.info current).sendCompletedMessage=false
  reader : ∀ current,s.currentInfo=some current → current∉results s.history →
    (s.info current).isPlaybackInitiated=false → (s.info current).attachmentReader=true
  source : s.mediaSourceId≠none → s.currentInfo≠none
  coming : ∀ directive,N directive → New s directive

/-- What is known of a directive is about these. -/
def body (s : Synthesizer) := (s.history,s.speakInfoQueue,s.currentInfo,s.mediaSourceId,s.info)

def core (s : Synthesizer) := (s.tasks,s.directives,body s)

section

variable (h : Sound N F s)
include h

theorem Sound.move {F' : List Task × ℕ} (hframe : (t.tasks,t.directives)=F')
    (hhistory : Once t.history) (hqueue : t.speakInfoQueue.Sublist s.speakInfoQueue)
    (hothers : ∀ directive,directive∈t.speakInfoQueue ∨ N directive → s.currentInfo≠some directive →
      directive∉results s.history → directive∉results t.history ∧ t.currentInfo≠some directive ∧
        ((s.info directive).isPlaybackInitiated=false → (t.info directive).isPlaybackInitiated=false) ∧
          (directive∈t.speakInfoQueue → (s.info directive).attachmentReader=true →
            (t.info directive).attachmentReader=true))
    (hmuted : ∀ current,t.currentInfo=some current → current∈results t.history →
      (t.info current).sendCompletedMessage=false)
    (hreader : ∀ current,t.currentInfo=some current → current∉results t.history →
      (t.info current).isPlaybackInitiated=false → (t.info current).attachmentReader=true)
    (hsource : t.mediaSourceId≠none → t.currentInfo≠none) : Sound N F' t := by
  refine ⟨hframe,hhistory,h.nodup.sublist hqueue,?_,hmuted,hreader,hsource,?_⟩
  · intro directive hqueued
    have hwaits := h.queue directive (hqueue.subset hqueued)
    obtain ⟨hunanswered,hother,hinitiated,hread⟩ :=
      hothers directive (.inl hqueued) hwaits.other hwaits.unanswered
    exact ⟨hunanswered,hother,hinitiated hwaits.uninitiated,hread hqueued hwaits.reader⟩
  · intro directive hcome
    have hnew := h.coming directive hcome
    obtain ⟨hunanswered,hother,hinitiated,_⟩ := hothers directive (.inr hcome) hnew.other hnew.unanswered
    exact ⟨hunanswered,fun hqueued => hnew.unqueued (hqueue.subset hqueued),hother,hinitiated hnew.uninitiated⟩

theorem Sound.reframe (t : Synthesizer) (hbody : body t=body s) : Sound N (t.tasks,t.directives) t := by
  simp only [body,Prod.mk.injEq] at hbody
  obtain ⟨hhistory,hqueue,hcurrent,hsource,hinfo⟩ := hbody
  refine h.move rfl (hhistory ▸ h.history) (hqueue ▸ List.Sublist.refl _) ?_ ?_ ?_ ?_
  · intro directive _ hother hunanswered
    rw [hhistory,hcurrent,hinfo]
    exact ⟨hunanswered,hother,id,fun _ => id⟩
  · rw [hcurrent,hhistory,hinfo]
    exact h.muted
  · rw [hcurrent,hhistory,hinfo]
    exact h.reader
  · rw [hsource,hcurrent]
    exact h.source

theorem Sound.congr (hcore : core t=core s) : Sound N F t := by
  obtain ⟨htasks,hrest⟩ := Prod.mk.inj hcore
  obtain ⟨hdirectives,hbody⟩ := Prod.mk.inj hrest
  have hframe := h.reframe t hbody
  rw [htasks,hdirectives,h.frame] at hframe
  exact hframe

theorem Sound.happen (hresults : results past=[]) (hsilent : ∀ directive reader,played directive reader∉past) :
    Sound N F {s with history := s.history++past} := by
  have hsame : results (s.history++past)=results s.history := by
    rw [results_append,hresults,append_nil]
  refine h.move h.frame ?_ (List.Sublist.refl _) ?_ ?_ ?_ h.source
  · refine h.history.append ?_ ?_ hsilent
    · rw [hresults]
      exact nodup_nil
    · rw [hresults]
      exact nofun
  · exact fun directive _ hother hunanswered => ⟨hsame ▸ hunanswered,hother,id,fun _ => id⟩
  · intro current hcurrent hanswered
    exact h.muted current hcurrent (hsame ▸ hanswered)
  · intro current hcurrent hunanswered
    exact h.reader current hcurrent (fun hanswered => hunanswered (hsame.symm ▸ hanswered))

theorem Sound.note {happening : Happening} (hresult : result happening=none)
    (hsilent : ∀ directive reader,happening≠.played directive reader) : Sound N F (s.note happening) := by
  refine h.happen ?_ ?_
  · unfold results
    rw [filterMap_cons_none hresult]
    rfl
  · intro directive reader hplayed
    exact hsilent directive reader (mem_singleton.mp hplayed).symm

/-- Those of others than the current one stay as far as it matters. -/
theorem Sound.info {info : ℕ → SpeakDirectiveInfo} (hothers : ∀ directive,s.currentInfo≠some directive →
      (info directive).isPlaybackInitiated=(s.info directive).isPlaybackInitiated ∧
        (directive∈s.speakInfoQueue → (info directive).attachmentReader=(s.info directive).attachmentReader))
    (hcurrent : ∀ current,s.currentInfo=some current →
      (current∈results s.history → (info current).sendCompletedMessage=false) ∧
        (current∉results s.history → (info current).isPlaybackInitiated=false →
          (info current).attachmentReader=true)) : Sound N F {s with info := info} := by
  refine h.move h.frame h.history (List.Sublist.refl _) ?_ ?_ ?_ h.source
  · intro directive _ hother hunanswered
    obtain ⟨hinitiated,hreader⟩ := hothers directive hother
    exact ⟨hunanswered,hother,hinitiated.trans,fun hqueued => (hreader hqueued).trans⟩
  · exact fun current hsome => (hcurrent current hsome).1
  · exact fun current hsome => (hcurrent current hsome).2

end

variable {f : SpeakDirectiveInfo → SpeakDirectiveInfo}

theorem Sound.updateInfo (h : Sound N F s) (directive : ℕ) (hothers : s.currentInfo≠some directive →
      (f (s.info directive)).isPlaybackInitiated=(s.info directive).isPlaybackInitiated ∧
        (directive∈s.speakInfoQueue → (f (s.info directive)).attachmentReader=(s.info directive).attachmentReader))
    (hcurrent : s.currentInfo=some directive →
      (directive∈results s.history → (f (s.info directive)).sendCompletedMessage=false) ∧
        (directive∉results s.history → (f (s.info directive)).isPlaybackInitiated=false →
          (f (s.info directive)).attachmentReader=true)) : Sound N F (s.updateInfo directive f) := by
  refine h.info ?_ ?_
  · intro other hother
    by_cases heq : other=directive
    · rw [heq,update_self]
      rw [heq] at hother
      exact hothers hother
    · rw [update_of_ne heq]
      exact ⟨rfl,fun _ => rfl⟩
  · intro current hsome
    by_cases heq : current=directive
    · rw [heq,update_self]
      rw [heq] at hsome
      exact hcurrent hsome
    · rw [update_of_ne heq]
      exact ⟨h.muted current hsome,h.reader current hsome⟩

/-- The current directive has no result. -/
def Unanswered (s : Synthesizer) : Prop := ∀ current,s.currentInfo=some current → current∉results s.history

theorem results_failed (directives : List ℕ) (error : String) :
    results (directives.map fun directive => failed directive error)=directives := by
  induction directives with
  | nil => rfl
  | cons head tail ih => exact congrArg (head :: ·) ih

theorem results_completed (directives : List ℕ) : results (directives.map completed)=directives := by
  induction directives with
  | nil => rfl
  | cons head tail ih => exact congrArg (head :: ·) ih

section

variable (h : Sound N F s)
include h

/-- An error that finds the current directive without a result. -/
theorem sound_executePlaybackError (hunanswered : Unanswered s) (error : String) :
    Sound N F (s.executePlaybackError error) := by
  cases hcurrent : s.currentInfo with
  | none =>
    rw [executePlaybackError_none hcurrent]
    exact h
  | some current =>
    obtain ⟨info,hinfo,_,heq⟩ := executePlaybackError_eq hcurrent error
    have hresults := results_failed (current::s.speakInfoQueue) error
    have hmem : ∀ directive∈current::s.speakInfoQueue,directive∉results s.history := by
      intro directive hdirective
      obtain heq|hqueued := mem_cons.mp hdirective
      · rw [heq]
        exact hunanswered current hcurrent
      · exact (h.queue directive hqueued).unanswered
    rw [heq]
    refine h.move h.frame ?_ (nil_sublist _) ?_ ?_ ?_ fun hsome => (hsome rfl).elim
    · refine h.history.append ?_ ?_ ?_
      · rw [hresults]
        exact nodup_cons.mpr ⟨fun hqueued => (h.queue current hqueued).other hcurrent,h.nodup⟩
      · rw [hresults]
        exact hmem
      · intro directive reader hplayed
        obtain ⟨other,_,heq⟩ := mem_map.mp hplayed
        cases heq
    · intro directive hkept hother hunanswered
      have hcome := hkept.resolve_left not_mem_nil
      refine ⟨?_,some_ne_none directive |>.symm,?_,fun hqueued => (not_mem_nil hqueued).elim⟩
      · rw [results_append,hresults,mem_append,mem_cons]
        rintro (hanswered|heq|hqueued)
        · exact hunanswered hanswered
        · rw [heq] at hother
          exact hother hcurrent
        · exact (h.coming directive hcome).unqueued hqueued
      · exact fun hno => eq_false_iff.mpr fun hflag => eq_false_iff.mp hno (hinfo.initiated hflag)
    · exact nofun
    · exact nofun

/-- The media player is told to stop. -/
def CallsStop (s : Synthesizer) : Prop := s.mediaSourceId≠none ∧ s.desiredState≠.INTERRUPTED

/-- If it does not stop, the current directive has no result. -/
def StopsCleanly (s : Synthesizer) (stops : Bool) : Prop := CallsStop s → stops=false → Unanswered s

theorem sound_stopPlaying {stops : Bool} (hcleanly : StopsCleanly s stops) : Sound N F (s.stopPlaying stops) := by
  unfold stopPlaying
  split
  · exact h
  next hsource =>
  split
  · exact h
  next hdesired =>
  split
  · exact h.congr rfl
  · next hno => exact sound_executePlaybackError h (hcleanly ⟨hsource,hdesired⟩ (eq_false_iff.mpr hno)) _

theorem Sound.conclude {happening : Happening} (hresult : result happening=some directive)
    (hunanswered : directive∉results s.history) (hunqueued : directive∉s.speakInfoQueue) (hcome : ¬N directive) :
    Sound N F (s.conclude directive happening) := by
  have hresults : results [happening]=[directive] := by
    unfold results
    rw [filterMap_cons_some hresult]
    rfl
  have hmem : ∀ other,other∈results (s.history++[happening]) ↔ other∈results s.history ∨ other=directive := by
    intro other
    rw [results_append,hresults,mem_append,mem_singleton]
  have hinfo : ∀ other,other≠directive → (s.conclude directive happening).info other=s.info other :=
    fun other hne => update_of_ne hne _ _
  refine h.move h.frame ?_ (List.Sublist.refl _) ?_ ?_ ?_ h.source
  · refine h.history.append ?_ ?_ ?_
    · rw [hresults]
      exact pairwise_singleton _ _
    · intro other hother
      rw [hresults,mem_singleton] at hother
      rw [hother]
      exact hunanswered
    · intro other reader hplayed
      rw [mem_singleton] at hplayed
      rw [←hplayed] at hresult
      cases hresult
  · intro other hkept hother hunanswered'
    have hne : other≠directive := by
      rintro rfl
      exact hkept.elim hunqueued hcome
    rw [hinfo other hne]
    exact ⟨fun hanswered => ((hmem other).mp hanswered).elim hunanswered' hne,hother,id,fun _ => id⟩
  · intro current hcurrent hanswered
    by_cases heq : current=directive
    · have hself : (s.conclude directive happening).info directive=(s.info directive).clear :=
        update_self _ _ _
      rw [heq,hself]
      rfl
    · rw [hinfo current heq]
      exact h.muted current hcurrent (((hmem current).mp hanswered).resolve_right heq)
  · intro current hcurrent hnone
    have hne : current≠directive := fun heq => hnone ((hmem current).mpr (.inr heq))
    rw [hinfo current hne]
    exact h.reader current hcurrent (fun hanswered => hnone ((hmem current).mpr (.inl hanswered)))

theorem sound_sendException (message : String) {stops : Bool}
    (hunanswered : directive∉results s.history) (hunqueued : directive∉s.speakInfoQueue) (hcome : ¬N directive)
    (hcleanly : s.currentState=.PLAYING ∨ s.currentState=.GAINING_FOCUS → CallsStop s → stops=false →
      s.currentInfo≠some directive ∧ Unanswered s) :
    Sound N F (s.sendExceptionEncounteredAndReportFailed directive message stops) := by
  have hconclude : Sound N F (s.conclude directive (.failed directive message)) :=
    h.conclude rfl hunanswered hunqueued hcome
  unfold sendExceptionEncounteredAndReportFailed
  dsimp only
  split
  · next hstate =>
    have hflagged : Sound N F ((s.conclude directive (.failed directive message)).updateInfo directive
        fun info => {info with isSetFailedCalled := true}) := by
      refine hconclude.updateInfo directive (fun _ => ⟨rfl,fun _ => rfl⟩) (fun hcurrent => ?_)
      exact ⟨hconclude.muted directive hcurrent,hconclude.reader directive hcurrent⟩
    refine sound_stopPlaying hflagged (fun hcalls hstops current hcurrent => ?_)
    obtain ⟨hother,hnone⟩ := hcleanly hstate hcalls hstops
    have hcurrent' : s.currentInfo=some current := hcurrent
    have hresults : results (s.history++[.failed directive message])=results s.history++[directive] :=
      results_append _ _
    intro hanswered
    have hanswered' : current∈results (s.history++[.failed directive message]) := hanswered
    rw [hresults,mem_append,mem_singleton] at hanswered'
    obtain hbefore|heq := hanswered'
    · exact hnone current hcurrent' hbefore
    · rw [heq] at hcurrent'
      exact hother hcurrent'
  · exact hconclude

/-- The front of the queue becomes the current directive. -/
def take (s : Synthesizer) (front : ℕ) (rest : List ℕ) : Synthesizer :=
  {mark s front with
    speakInfoQueue := rest
    currentInfo := some front
    desiredState := .PLAYING}

theorem sound_take {front : ℕ} {rest : List ℕ} (hqueue : s.speakInfoQueue=front::rest) : Sound N F (take s front rest) ∧
      front∉results s.history ∧ front∉rest ∧ ¬N front := by
  have hnodup := h.nodup
  rw [hqueue] at hnodup
  obtain ⟨hfresh,hrest⟩ := nodup_cons.mp hnodup
  have hmem : front∈s.speakInfoQueue := by
    rw [hqueue]
    exact mem_cons_self
  have hwaits : Waits s front := h.queue front hmem
  have hcome : ¬N front := fun hfront => (h.coming front hfront).unqueued hmem
  have hsub : rest.Sublist s.speakInfoQueue := by
    rw [hqueue]
    exact sublist_cons_self front rest
  have hinitiated : ∀ directive,((mark s front).info directive).isPlaybackInitiated =
      (s.info directive).isPlaybackInitiated := update_keeps isPlaybackInitiated (by rfl)
  have hreader : ∀ directive,((mark s front).info directive).attachmentReader=(s.info directive).attachmentReader :=
    update_keeps attachmentReader (by rfl)
  refine ⟨h.move h.frame h.history hsub ?_ ?_ ?_ ?_,hwaits.unanswered,hfresh,hcome⟩
  · intro directive hkept _ hunanswered
    refine ⟨hunanswered,?_,(hinitiated directive).trans,fun _ => (hreader directive).trans⟩
    intro hother
    cases hother
    exact hkept.elim hfresh hcome
  · intro current hother hanswered
    cases hother
    exact (hwaits.unanswered hanswered).elim
  · intro current hother _ _
    cases hother
    exact (hreader front).trans hwaits.reader
  · exact nofun

/-- The front of the queue is handled, whether or not the channel is refused. -/
theorem sound_executeHandle_front {front : ℕ} (hcurrent : s.currentInfo=none)
    (hfront : s.speakInfoQueue.head?=some front) (a : Answers) : Sound N F (s.executeHandleAfterValidation front a) := by
  obtain ⟨rest,hqueue⟩ := List.head?_eq_some_iff.mp hfront
  obtain ⟨htaken,hunanswered,hfresh,hcome⟩ := sound_take h hqueue
  have hnone : (mark s front).currentInfo.isSome=false := congrArg isSome hcurrent
  have hfront' : (mark s front).speakInfoQueue.head?=some front := hfront
  have htail : (mark s front).speakInfoQueue.tail=rest := congrArg List.tail hqueue
  unfold executeHandleAfterValidation
  dsimp only
  unfold mark at hnone hfront' htail
  rw [hnone,if_neg Bool.false_ne_true,if_neg (fun hne => hne hfront'),htail]
  split
  · exact htaken.congr rfl
  · -- Nothing is stopped, since there is no source.
    have hsource : s.mediaSourceId=none := by
      by_contra hsome
      exact h.source hsome hcurrent
    have hfailed : Sound N F ((take s front rest).sendExceptionEncounteredAndReportFailed front
        "Could not acquire Dialog for SpeechSynthesizer" a.stops) :=
      sound_sendException htaken _ hunanswered hfresh hcome (fun _ hcalls => (hcalls.1 hsource).elim)
    exact hfailed.congr rfl

end

theorem sendException_quiet (directive : ℕ) (message : String) (stops : Bool)
    (hstate : ¬(s.currentState=.PLAYING ∨ s.currentState=.GAINING_FOCUS)) :
    s.sendExceptionEncounteredAndReportFailed directive message stops =
      s.conclude directive (.failed directive message) := by
  exact if_neg hstate

/-- Without playback it becomes current, or fails with the channel. -/
theorem handleFront_quiet (a : Answers) (hcurrent : s.currentInfo=none)
    (hstate : ¬(s.currentState=.PLAYING ∨ s.currentState=.GAINING_FOCUS)) :
    s.handleFront a=s ∨ ∃ front rest,s.speakInfoQueue=front::rest ∧
      (core (s.handleFront a)=core (take s front rest) ∨ ∃ message,
        core (s.handleFront a)=core ((take s front rest).conclude front (.failed front message))) := by
  unfold handleFront
  split
  · exact .inl rfl
  next front rest hqueue =>
  split
  · refine .inr ⟨front,rest,hqueue,?_⟩
    have hnone : (mark s front).currentInfo.isSome=false := congrArg isSome hcurrent
    have hfront : (mark s front).speakInfoQueue.head?=some front := congrArg List.head? hqueue
    have htail : (mark s front).speakInfoQueue.tail=rest := congrArg List.tail hqueue
    unfold executeHandleAfterValidation
    dsimp only
    unfold mark at hnone hfront htail
    rw [hnone,if_neg Bool.false_ne_true,if_neg (fun hne => hne hfront),htail]
    split
    · exact .inl rfl
    · refine .inr ⟨"Could not acquire Dialog for SpeechSynthesizer",?_⟩
      have hquiet := @sendException_quiet (take s front rest) front "Could not acquire Dialog for SpeechSynthesizer"
        a.stops hstate
      unfold take mark at hquiet
      rw [hquiet]
      rfl
  · exact .inl rfl

theorem core_forget (h : core t=core s) : core {t with mediaSourceId := none}=core {s with mediaSourceId := none} := by
  simp only [core,body,Prod.mk.injEq] at h ⊢
  exact ⟨h.1,h.2.1,h.2.2.1,h.2.2.2.1,h.2.2.2.2.1,trivial,h.2.2.2.2.2.2⟩

theorem results_sent {sent : List Happening} (h : ∀ happening∈sent,∃ eventName token,happening=.sent eventName token) :
    results sent=[] := by
  unfold results
  rw [filterMap_eq_nil_iff]
  intro happening hmem
  obtain ⟨eventName,token,heq⟩ := h happening hmem
  rw [heq]
  rfl

variable {current : ℕ}

section

variable (h : Sound N F s)
include h

/-- Completed at most once, it is forgotten with its source. -/
theorem Sound.forget (hcurrent : s.currentInfo=some current)
    (hresults : results past=[] ∨ (results past=[current] ∧ current∉results s.history))
    (hsilent : ∀ directive reader,played directive reader∉past) :
    Sound N F {s.updateInfo current clear with
      history := s.history++past
      currentInfo := none
      mediaSourceId := none} := by
  have hothers : ∀ directive,s.currentInfo≠some directive → directive∉results s.history →
      directive∉results (s.history++past) := by
    intro directive hother hunanswered
    rw [results_append,mem_append]
    obtain hnone|⟨hone,_⟩ := hresults
    · rw [hnone]
      exact fun hanswered => hanswered.elim hunanswered not_mem_nil
    · rw [hone,mem_singleton]
      rintro (hanswered|heq)
      · exact hunanswered hanswered
      · rw [heq] at hother
        exact hother hcurrent
  have hinfo : ∀ directive,s.currentInfo≠some directive →
      (s.updateInfo current clear).info directive=s.info directive := by
    intro directive hother
    refine update_of_ne ?_ _ _
    rintro rfl
    exact hother hcurrent
  refine h.move h.frame ?_ (List.Sublist.refl _) ?_ ?_ ?_ fun hsome => (hsome rfl).elim
  · refine h.history.append ?_ ?_ hsilent
    · obtain hnone|⟨hone,_⟩ := hresults
      · rw [hnone]
        exact nodup_nil
      · rw [hone]
        exact pairwise_singleton _ _
    · intro directive hmem
      obtain hnone|⟨hone,hunanswered⟩ := hresults
      · rw [hnone] at hmem
        cases hmem
      · rw [hone,mem_singleton] at hmem
        rw [hmem]
        exact hunanswered
  · intro directive _ hother hunanswered
    refine ⟨hothers directive hother hunanswered,(fun hsome => by cases hsome),?_⟩
    rw [hinfo directive hother]
    exact ⟨id,fun _ => id⟩
  · exact nofun
  · exact nofun

/-- A playback ends: completed, and the next one where due. -/
theorem sound_executePlaybackFinished (a : Answers) : Sound N F (s.executePlaybackFinished a) := by
  obtain hcurrent|⟨current,hcurrent⟩ := eq_none_or_eq_some s.currentInfo
  · have hsame : s.executePlaybackFinished a=s := by
      unfold executePlaybackFinished
      split
      · rfl
      · next other hother => cases hcurrent.symm.trans hother
    rw [hsame]
    exact h
  rw [executePlaybackFinished_eq hcurrent]
  obtain ⟨state,sent,hstate,hsent,htold⟩ := tellFinished_eq s current
  generalize hpast : (sent++if (s.info current).sendCompletedMessage then [completed current] else []) =
    past at htold
  have hsilent : ∀ directive reader,played directive reader∉past := by
    intro directive reader hplayed
    rw [←hpast,mem_append] at hplayed
    obtain hevent|hcompleted := hplayed
    · obtain ⟨eventName,token,heq⟩ := hsent _ hevent
      cases heq
    · split at hcompleted
      · cases mem_singleton.mp hcompleted
      · cases hcompleted
  have hresults : results past=[] ∨ (results past=[current] ∧ current∉results s.history) := by
    rw [←hpast,results_append,results_sent hsent,nil_append]
    split
    · next hsend =>
      refine .inr ⟨rfl,fun hanswered => ?_⟩
      rw [h.muted current hcurrent hanswered] at hsend
      cases hsend
    · exact .inl rfl
  have hreset := @resetCurrentInfo_eq (s.tellFinished current) current (by rw [htold]; exact hcurrent)
  rw [hreset,htold]
  have hended : Sound N F {({s with
      currentState := state
      history := s.history++past} : Synthesizer).updateInfo current clear with
    currentInfo := none
    mediaSourceId := none} := (h.forget hcurrent hresults hsilent).congr rfl
  obtain hsame|⟨front,rest,hqueue,hcore|⟨message,hcore⟩⟩ := @handleFront_quiet
    {({s with
        currentState := state
        history := s.history++past} : Synthesizer).updateInfo current clear with
      currentInfo := none} a rfl hstate
  · rw [hsame]
    exact hended
  · have htaken := (sound_take hended hqueue).1
    exact htaken.congr (core_forget hcore)
  · obtain ⟨htaken,hunanswered,hfresh,hcome⟩ := sound_take hended hqueue
    exact (htaken.conclude rfl hunanswered hfresh hcome).congr (core_forget hcore)

theorem sound_executeCancel (directive : ℕ) (a : Answers)
    (hcleanly : s.currentInfo=some directive → StopsCleanly s a.stops) : Sound N F (s.executeCancel directive a) := by
  unfold executeCancel
  split
  · next hother =>
    have hmem : ∀ other∈s.speakInfoQueue.erase directive,other∈s.speakInfoQueue ∧ other≠directive := by
      intro other hother
      exact ⟨mem_of_mem_erase hother,((h.nodup.mem_erase_iff).mp hother).1⟩
    have hinfo : ∀ other,other≠directive → (s.updateInfo directive clear).info other=s.info other :=
      fun other hne => update_of_ne hne _ _
    have hcleared : Cleared s.info (s.updateInfo directive clear).info := cleared_update s.info directive
    have hkept : ∀ current,s.currentInfo=some current → (s.updateInfo directive clear).info current=s.info current := by
      intro current hcurrent
      refine hinfo current ?_
      rintro rfl
      exact hother hcurrent
    refine h.move h.frame h.history erase_sublist ?_ ?_ ?_ h.source
    · intro other _ hother hunanswered
      refine ⟨hunanswered,hother,fun hno => ?_,fun hqueued hreader => ?_⟩
      · exact eq_false_iff.mpr fun hflag => eq_false_iff.mp hno (hcleared.initiated hflag)
      · exact (congrArg attachmentReader (hinfo other (hmem other hqueued).2)).trans hreader
    · intro current hcurrent
      rw [hkept current hcurrent]
      exact h.muted current hcurrent
    · intro current hcurrent
      rw [hkept current hcurrent]
      exact h.reader current hcurrent
  next hcurrent =>
  rw [Decidable.not_not] at hcurrent
  dsimp only
  have hmuted : Sound N F (s.updateInfo directive fun info =>
      {info with sendPlaybackStartedMessage := false,sendCompletedMessage := false}) :=
    h.updateInfo directive (fun hother => (hother hcurrent).elim) fun _ => ⟨fun _ => rfl,h.reader directive hcurrent⟩
  split
  · exact sound_stopPlaying hmuted (hcleanly hcurrent)
  · have hended : ∀ state,Sound N F (({s.updateInfo directive fun info =>
        {info with sendPlaybackStartedMessage := false,sendCompletedMessage := false} with
          desiredState := state} : Synthesizer).executePlaybackFinished a) := by
      intro state
      refine sound_executePlaybackFinished ?_ a
      exact hmuted.congr rfl
    have hreleased : ∀ u : Synthesizer,Sound N F u →
        Sound N F (if u.currentInfo.isNone then u.releaseForegroundFocus else u) := by
      intro u hu
      split
      · exact hu.congr rfl
      · exact hu
    exact hreleased _ (hended _)

/-- Those not in the queue nor to come have their results in order. -/
theorem Sound.concludeAll {directives : List ℕ} {happening : ℕ → Happening}
    (hresult : ∀ directive,result (happening directive)=some directive) (hnodup : directives.Nodup)
    (hdirectives : ∀ directive∈directives, directive∉results s.history ∧ directive∉s.speakInfoQueue ∧ ¬N directive) :
    Sound N F (s.concludeAll directives happening) := by
  induction directives generalizing s with
  | nil => exact h
  | cons head tail ih =>
    obtain ⟨hhead,htail⟩ := nodup_cons.mp hnodup
    obtain ⟨hunanswered,hunqueued,hcome⟩ := hdirectives head mem_cons_self
    refine ih (h.conclude (hresult head) hunanswered hunqueued hcome) htail ?_
    intro directive hdirective
    obtain ⟨hunanswered',hunqueued',hcome'⟩ := hdirectives directive (mem_cons_of_mem _ hdirective)
    refine ⟨?_,hunqueued',hcome'⟩
    have hresults : results [happening head]=[head] := by
      unfold results
      rw [filterMap_cons_some (hresult head)]
      rfl
    intro hanswered
    have hanswered' : directive∈results (s.history++[happening head]) := hanswered
    rw [results_append,hresults,mem_append,mem_singleton] at hanswered'
    obtain hbefore|heq := hanswered'
    · exact hunanswered' hbefore
    · rw [heq] at hdirective
      exact hhead hdirective

end

theorem concludeAll_queue (s : Synthesizer) (queue directives : List ℕ) (happening : ℕ → Happening) :
    {s with speakInfoQueue := queue}.concludeAll directives happening =
      {s.concludeAll directives happening with speakInfoQueue := queue} := by
  induction directives generalizing s with
  | nil => rfl
  | cons head tail ih => exact ih (s.conclude head (happening head))

theorem sound_clearPendingDirectives (h : Sound N F s) : Sound N F s.clearPendingDirectives := by
  have hempty : Sound N F {s with speakInfoQueue := []} := by
    refine h.move h.frame h.history (nil_sublist _) ?_ h.muted h.reader h.source
    exact fun directive _ hother hunanswered => ⟨hunanswered,hother,id,fun _ => id⟩
  have hall : Sound N F ({s with speakInfoQueue := []}.concludeAll s.speakInfoQueue completed) := by
    refine hempty.concludeAll (fun _ => rfl) h.nodup ?_
    intro directive hqueued
    exact ⟨(h.queue directive hqueued).unanswered,not_mem_nil,fun hcome => (h.coming directive hcome).unqueued hqueued⟩
  rw [concludeAll_queue] at hall
  exact hall

theorem unanswered_clearPendingDirectives (h : Sound N F s) (hunanswered : Unanswered s) :
    Unanswered s.clearPendingDirectives := by
  obtain ⟨info,_,heq⟩ := clearPendingDirectives_eq s
  rw [heq]
  intro current hcurrent hanswered
  have hanswered' : current∈results (s.history++s.speakInfoQueue.map completed) := hanswered
  rw [results_append,results_completed,mem_append] at hanswered'
  obtain hbefore|hqueued := hanswered'
  · exact hunanswered current hcurrent hbefore
  · exact (h.queue current hqueued).other hcurrent

theorem Sound.enter (h : Sound N F s) (hnew : New s directive)
    (hreader : (s.info directive).attachmentReader=true) (hcome : ¬N directive) {queue : List ℕ}
    (hsub : queue.Sublist s.speakInfoQueue) : Sound N F {s with speakInfoQueue := queue++[directive]} := by
  refine ⟨h.frame,h.history,?_,?_,h.muted,h.reader,h.source,?_⟩
  · refine nodup_append.mpr ⟨h.nodup.sublist hsub,pairwise_singleton _ _,?_⟩
    rintro other hother last hlast rfl
    rw [mem_singleton.mp hlast] at hother
    exact hnew.unqueued (hsub.subset hother)
  · intro other hqueued
    obtain hbefore|hlast := mem_append.mp hqueued
    · have hwaits := h.queue other (hsub.subset hbefore)
      exact ⟨hwaits.unanswered,hwaits.other,hwaits.uninitiated,hwaits.reader⟩
    · rw [mem_singleton.mp hlast]
      exact ⟨hnew.unanswered,hnew.other,hnew.uninitiated,hreader⟩
  · intro other hother
    have hnew' := h.coming other hother
    refine ⟨hnew'.unanswered,fun hqueued => ?_,hnew'.other,hnew'.uninitiated⟩
    obtain hbefore|hlast := mem_append.mp hqueued
    · exact hnew'.unqueued (hsub.subset hbefore)
    · rw [mem_singleton.mp hlast] at hother
      exact hcome hother

theorem concludeAll_info {directives : List ℕ} (s : Synthesizer) (happening : ℕ → Happening)
    (hother : directive∉directives) : (s.concludeAll directives happening).info directive=s.info directive := by
  induction directives generalizing s with
  | nil => rfl
  | cons head tail ih =>
    have hne : directive≠head := fun heq => hother (heq ▸ mem_cons_self)
    have htail := ih (s.conclude head (happening head)) (fun hmem => hother (mem_cons_of_mem _ hmem))
    exact htail.trans (update_of_ne hne _ _)

/-- A directive stays new while the pending ones get their results. -/
theorem New.clearPendingDirectives (hnew : New s directive) : New s.clearPendingDirectives directive ∧
    s.clearPendingDirectives.info directive=s.info directive := by
  have hinfo : s.clearPendingDirectives.info directive=s.info directive :=
    concludeAll_info s completed hnew.unqueued
  obtain ⟨info,_,heq⟩ := clearPendingDirectives_eq s
  refine ⟨⟨?_,?_,?_,?_⟩,hinfo⟩
  · rw [heq]
    rw [results_append,results_completed,mem_append]
    exact fun hanswered => hanswered.elim hnew.unanswered hnew.unqueued
  · rw [heq]
    exact not_mem_nil
  · rw [heq]
    exact hnew.other
  · rw [hinfo]
    exact hnew.uninitiated

variable {a : Answers}

theorem sound_addToDirectiveQueue (h : Sound N F s) (hnew : New s directive)
    (hreader : (s.info directive).attachmentReader=true) (hcome : ¬N directive)
    (hcleanly : StopsCleanly s a.stops) : Sound N F (s.addToDirectiveQueue directive a) := by
  obtain ⟨hnew',hinfo⟩ := hnew.clearPendingDirectives
  have hreader' : (s.clearPendingDirectives.info directive).attachmentReader=true := by
    rw [hinfo]
    exact hreader
  have hreplaced : Sound N F {s.clearPendingDirectives with speakInfoQueue := [directive]} :=
    (sound_clearPendingDirectives h).enter hnew' hreader' hcome (nil_sublist _)
  unfold addToDirectiveQueue
  split
  · exact h.enter hnew hreader hcome (List.Sublist.refl _)
  · exact hreplaced
  · dsimp only
    split
    · exact hreplaced
    · refine sound_executeCancel hreplaced _ a (fun _ hcalls hstops => ?_)
      have hcalls' : CallsStop s := by
        obtain ⟨_,_,heq⟩ := clearPendingDirectives_eq s
        rw [heq] at hcalls
        exact hcalls
      exact unanswered_clearPendingDirectives h (hcleanly hcalls' hstops)

/-- The right format, and an attachment if a content id is told. -/
def Complete (speak : Speak) : Prop :=
  speak.name = "Speak" → ∀ payload,speak.payload=some payload → ∀ token format,payload.token=.string token →
    payload.format=.string format → format = "AUDIO_MPEG" ∧ ∀ url content,payload.url=.string url →
      contentId url=some content → speak.attachments content=true

/-- It fails once, or is put into the queue with a reader. -/
def Outcome (directive : ℕ) (a : Answers) (s r : Synthesizer) : Prop :=
  ∃ f : SpeakDirectiveInfo → SpeakDirectiveInfo, (∀ info,(f info).isPlaybackInitiated=info.isPlaybackInitiated) ∧
    ((∃ message,r=(s.updateInfo directive f).sendExceptionEncounteredAndReportFailed directive message a.stops) ∨
      ((f (s.info directive)).attachmentReader=true ∧ r=(s.updateInfo directive f).addToDirectiveQueue directive a))

theorem updateInfo_updateInfo (s : Synthesizer) (directive : ℕ) (f g : SpeakDirectiveInfo → SpeakDirectiveInfo) :
    (s.updateInfo directive f).updateInfo directive g=s.updateInfo directive (fun info => g (f info)) := by
  unfold updateInfo
  dsimp only
  rw [update_self,update_idem]

theorem updateInfo_self (s : Synthesizer) (directive : ℕ) (f : SpeakDirectiveInfo → SpeakDirectiveInfo) :
    (s.updateInfo directive f).info directive=f (s.info directive) :=
  update_self _ _ _

section

variable (hf : ∀ info,(f info).isPlaybackInitiated=info.isPlaybackInitiated)
include hf

theorem outcome_fail (message : String) :
    Outcome directive a s ((s.updateInfo directive f).sendExceptionEncounteredAndReportFailed directive message a.stops) :=
  ⟨f,hf,.inl ⟨message,rfl⟩⟩

theorem outcome_playBehavior (hreader : (f (s.info directive)).attachmentReader=true) (playBehavior : Member) :
    Outcome directive a s ((s.updateInfo directive f).preHandlePlayBehavior directive playBehavior a) := by
  have hbehavior : ∀ b : PlayBehavior,Outcome directive a s (((s.updateInfo directive f).updateInfo directive
      fun info => {info with playBehavior := b}).addToDirectiveQueue directive a) := by
    intro b
    rw [updateInfo_updateInfo]
    exact ⟨fun info => {f info with playBehavior := b},hf,.inr ⟨hreader,rfl⟩⟩
  unfold preHandlePlayBehavior
  cases playBehavior with
  | missing => exact hbehavior .replaceAll
  | invalid => exact outcome_fail hf _
  | string =>
    dsimp only
    split
    · exact outcome_fail hf _
    · exact hbehavior _

end

variable {speak : Speak}

theorem outcome_url (hf : ∀ info,(f info).isPlaybackInitiated=info.isPlaybackInitiated) {payload : SpeakPayload}
    (hattachment : ∀ url content,payload.url=.string url → contentId url=some content →
      speak.attachments content=true) :
    Outcome directive a s ((s.updateInfo directive f).preHandleUrl directive speak payload a) := by
  unfold preHandleUrl
  cases hurl : payload.url with
  | missing | invalid => exact outcome_fail hf _
  | string url =>
    dsimp only
    split
    · exact outcome_fail hf _
    · next content hcontent =>
      have hreader : speak.attachments content=true := hattachment url content hurl hcontent
      rw [updateInfo_updateInfo,hreader,updateInfo_self,if_pos rfl]
      exact @outcome_playBehavior s directive (fun info => {f info with attachmentReader := true}) a hf rfl _

theorem outcome_preHandle (s : Synthesizer) (a : Answers) (hcomplete : Complete speak) :
    Outcome directive a s (s.executePreHandleAfterValidation directive speak a) := by
  have hfail : ∀ message : String,
      Outcome directive a s (s.sendExceptionEncounteredAndReportFailed directive message a.stops) := by
    intro message
    refine ⟨id,fun _ => rfl,.inl ⟨message,?_⟩⟩
    unfold updateInfo
    rw [id,update_eq_self]
  unfold executePreHandleAfterValidation
  split
  · exact hfail _
  next hname =>
  rw [Decidable.not_not] at hname
  split
  · exact hfail _
  next payload hpayload =>
  cases htoken : payload.token with
  | missing => exact hfail _
  | invalid => exact hfail _
  | string token =>
    have hf : ∀ info : SpeakDirectiveInfo,{info with token := token}.isPlaybackInitiated=info.isPlaybackInitiated :=
      fun _ => rfl
    unfold preHandleFormat
    cases hformat : payload.format with
    | missing | invalid => exact outcome_fail hf _
    | string format =>
      obtain ⟨hmpeg,hattachment⟩ := hcomplete hname payload hpayload token format htoken hformat
      dsimp only
      rw [if_neg (fun hne => hne hmpeg)]
      exact outcome_url hf hattachment

/-- The directives to come, but for one. -/
def Others (N : ℕ → Prop) (directive : ℕ) : ℕ → Prop := fun other => N other ∧ other≠directive

section

variable (h : Sound N F s)
include h

theorem sound_preHandle (hnew : New s directive) (hcomplete : Complete speak) (hcleanly : StopsCleanly s a.stops) :
    Sound (Others N directive) F (s.executePreHandle directive speak a) := by
  have hothers : Sound (Others N directive) F s :=
    ⟨h.frame,h.history,h.nodup,h.queue,h.muted,h.reader,h.source,fun other hother => h.coming other hother.1⟩
  have hcome : ¬Others N directive directive := fun hself => hself.2 rfl
  unfold executePreHandle
  obtain ⟨f,hf,⟨message,heq⟩|⟨hreader,heq⟩⟩ := @outcome_preHandle directive speak s a hcomplete
  · have hread : Sound (Others N directive) F (s.updateInfo directive f) :=
      hothers.updateInfo directive (fun _ => ⟨hf _,fun hqueued => (hnew.unqueued hqueued).elim⟩)
        (fun hcurrent => (hnew.other hcurrent).elim)
    rw [heq]
    refine sound_sendException hread message hnew.unanswered hnew.unqueued hcome (fun _ hcalls hstops => ?_)
    exact ⟨hnew.other,hcleanly hcalls hstops⟩
  · have hread : Sound (Others N directive) F (s.updateInfo directive f) :=
      hothers.updateInfo directive (fun _ => ⟨hf _,fun hqueued => (hnew.unqueued hqueued).elim⟩)
        (fun hcurrent => (hnew.other hcurrent).elim)
    have hnew' : New (s.updateInfo directive f) directive := by
      refine ⟨hnew.unanswered,hnew.unqueued,hnew.other,?_⟩
      rw [updateInfo_self,hf]
      exact hnew.uninitiated
    rw [heq]
    refine sound_addToDirectiveQueue hread hnew' ?_ hcome hcleanly
    rw [updateInfo_self]
    exact hreader

theorem Sound.play (hcurrent : s.currentInfo=some current) (hunanswered : current∉results s.history) (id : SourceId) :
    Sound N F {s with
      mediaSourceId := some id
      history := s.history++[.played current true]} := by
  have hsame : results (s.history++[.played current true])=results s.history := by
    rw [results_append]
    exact append_nil _
  refine h.move h.frame (h.history.play hunanswered) (List.Sublist.refl _) ?_ ?_ ?_ ?_
  · exact fun directive _ hother hunanswered => ⟨hsame ▸ hunanswered,hother,fun hno => hno,fun _ hyes => hyes⟩
  · intro other hother hanswered
    exact h.muted other hother (hsame ▸ hanswered)
  · intro other hother hnone
    exact h.reader other hother (fun hanswered => hnone (hsame.symm ▸ hanswered))
  · intro _ hnone
    cases hcurrent.symm.trans hnone

theorem Sound.unset : Sound N F {s with mediaSourceId := none} := by
  refine h.move h.frame h.history (List.Sublist.refl _) ?_ h.muted h.reader fun hsome => (hsome rfl).elim
  exact fun directive _ hother hunanswered => ⟨hunanswered,hother,id,fun _ => id⟩

/-- It is reported as failed, and not to be completed any more. -/
theorem Sound.fail (hcurrent : s.currentInfo=some current) (hunanswered : current∉results s.history) (message : String)
    (hmuted : (f (s.info current)).sendCompletedMessage=false) :
    Sound N F ((s.note (.failed current message)).updateInfo current f) := by
  have hmem : ∀ directive,directive∈results (s.history++[.failed current message]) ↔
      directive∈results s.history ∨ directive=current := by
    intro directive
    rw [results_append]
    exact mem_append.trans (or_congr Iff.rfl mem_singleton)
  have hinfo : ∀ directive,s.currentInfo≠some directive →
      ((s.note (.failed current message)).updateInfo current f).info directive=s.info directive := by
    intro directive hother
    refine update_of_ne ?_ _ _
    rintro rfl
    exact hother hcurrent
  have hothers : ∀ directive,s.currentInfo≠some directive → directive∉results s.history →
      directive∉results (s.history++[.failed current message]) := by
    intro directive hother hnone hanswered
    obtain hbefore|heq := (hmem directive).mp hanswered
    · exact hnone hbefore
    · rw [heq] at hother
      exact hother hcurrent
  refine h.move h.frame ?_ (List.Sublist.refl _) ?_ ?_ ?_ h.source
  · refine h.history.append (pairwise_singleton _ _) ?_ ?_
    · intro directive hdirective
      rw [mem_singleton.mp hdirective]
      exact hunanswered
    · intro directive reader hplayed
      cases mem_singleton.mp hplayed
  · intro directive _ hother hunanswered
    rw [hinfo directive hother]
    exact ⟨hothers directive hother hunanswered,hother,id,fun _ => id⟩
  · intro other hother _
    have hother' : s.currentInfo=some other := hother
    cases hcurrent.symm.trans hother'
    rw [updateInfo_self]
    exact hmuted
  · intro other hother hnone
    have hother' : s.currentInfo=some other := hother
    cases hcurrent.symm.trans hother'
    exact (hnone ((hmem current).mpr (.inr rfl))).elim

theorem sound_startPlaying (a : Answers) (hcurrent : s.currentInfo=some current)
    (hunanswered : current∉results s.history) (hinitiated : (s.info current).isPlaybackInitiated=false) :
    Sound N F ((s.initiate current).startPlaying current a) := by
  have hreader : ((s.initiate current).info current).attachmentReader=true := by
    unfold initiate
    rw [updateInfo_self]
    exact h.reader current hcurrent hunanswered hinitiated
  have hmoved : Sound N F ((s.initiate current).updateInfo current fun info => {info with attachmentReader := false}) := by
    unfold initiate
    rw [updateInfo_updateInfo]
    refine h.updateInfo current (fun hother => (hother hcurrent).elim) (fun _ => ⟨?_,?_⟩)
    · exact fun hanswered => (hunanswered hanswered).elim
    · exact nofun
  unfold startPlaying
  rw [hreader]
  split
  · have hplayed : Sound N F (({(s.initiate current).updateInfo current fun info =>
        {info with attachmentReader := false} with
          mediaSourceId := some (s.initiate current).sources
          sources := (s.initiate current).sources+1} : Synthesizer).note (.played current true)) :=
      (hmoved.play hcurrent hunanswered (s.initiate current).sources).congr rfl
    split
    · exact hplayed.congr rfl
    · refine sound_executePlaybackError hplayed (fun other hother hanswered => ?_) _
      have hother' : s.currentInfo=some other := hother
      cases hcurrent.symm.trans hother'
      have hanswered' : current∈results (s.history++[.played current true]) := hanswered
      rw [results_append] at hanswered'
      exact (mem_append.mp hanswered').elim hunanswered not_mem_nil
  · refine sound_executePlaybackError ?_ (fun other hother hanswered => ?_) _
    · exact hmoved.unset
    · have hother' : s.currentInfo=some other := hother
      cases hcurrent.symm.trans hother'
      exact hunanswered hanswered

/-- No second failure of an interrupted directive. -/
def Fits (s : Synthesizer) (a : Answers) : Task → Prop
  | .preHandle _ speak => Complete speak ∧ StopsCleanly s a.stops
  | .handle directive => s.currentInfo=none → s.speakInfoQueue.head?=some directive
  | .cancel directive => s.currentInfo=some directive → StopsCleanly s a.stops
  | .stateChange .PLAYING => Unanswered s ∧
      ∀ current,s.currentInfo=some current → (s.info current).isPlaybackInitiated=false
  | .stateChange .INTERRUPTED => Unanswered s ∧ ∀ current,s.currentInfo=some current →
      (s.info current).isPlaybackInitiated=true → CallsStop s → a.stops=true
  | .stateChangeTimeout => s.captured=s.currentInfo → Unanswered s ∧
      (s.currentState=.PLAYING ∨ s.currentState=.GAINING_FOCUS → s.currentInfo≠none → CallsStop s → a.stops=true)
  | .playbackStarted id | .playbackFinished id => s.mediaSourceId≠some id → Unanswered s
  | .playbackStopped id => (s.mediaSourceId≠some id → Unanswered s) ∧
      ∀ current,s.currentInfo=some current → (s.info current).isSetFailedCalled=false → current∉results s.history
  | .playbackError _ _ => Unanswered s
  | _ => True

theorem sound_executeStateChange {newState : SpeechSynthesizerState}
    (hfits : Fits s a (.stateChange newState)) : Sound N F (s.executeStateChange newState a) := by
  unfold executeStateChange
  split
  · exact h
  next current hcurrent =>
  cases newState with
  | PLAYING => exact sound_startPlaying h a hcurrent (hfits.1 current hcurrent) (hfits.2 current hcurrent)
  | INTERRUPTED =>
    have hinterrupted : Sound N F (s.interrupt current) := h.fail hcurrent (hfits.1 current hcurrent) _ rfl
    dsimp only
    split
    · next hinitiated =>
      refine sound_stopPlaying hinterrupted (fun hcalls hstops => ?_)
      have hinitiated' : (s.info current).isPlaybackInitiated=true := by
        unfold interrupt at hinitiated
        rw [updateInfo_self] at hinitiated
        exact hinitiated
      rw [hfits.2 current hcurrent hinitiated' hcalls] at hstops
      cases hstops
    · refine sound_executePlaybackFinished ?_ a
      exact hinterrupted.congr rfl
  | FINISHED => exact h
  | GAINING_FOCUS => exact h
  | LOSING_FOCUS => exact h

theorem sound_executeStateChangeTimeout (hfits : Fits s a .stateChangeTimeout) :
    Sound N F (s.executeStateChangeTimeout a) := by
  unfold executeStateChangeTimeout
  split
  · exact h
  next current hcurrent =>
  split
  · next hcaptured =>
    obtain ⟨hunanswered,hstops⟩ := hfits (hcaptured.trans hcurrent.symm)
    refine sound_sendException h _ (hunanswered current hcurrent) ?_ ?_ (fun hstate hcalls hno => ?_)
    · exact fun hqueued => (h.queue current hqueued).other hcurrent
    · exact fun hcome => (h.coming current hcome).other hcurrent
    · have hsome : s.currentInfo≠none := by
        rw [hcurrent]
        exact some_ne_none current
      rw [hstops hstate hsome hcalls] at hno
      cases hno
  · exact h

theorem sound_onPlaybackStarted {id : SourceId} (hfits : s.mediaSourceId≠some id → Unanswered s) :
    Sound N F (s.onPlaybackStarted id) := by
  unfold onPlaybackStarted
  split
  · next hid => exact sound_executePlaybackError h (hfits hid) _
  unfold executePlaybackStarted
  split
  · exact h
  dsimp only
  split
  · have hstarted : Sound N F {s with
        currentState := .PLAYING
        desiredState := .FINISHED} := h.congr rfl
    exact hstarted.note rfl nofun
  · exact h.congr rfl

theorem sound_onPlaybackStopped {id : SourceId} (hfits : Fits s a (.playbackStopped id)) :
    Sound N F (s.onPlaybackStopped id a) := by
  unfold onPlaybackStopped
  split
  · next hnone =>
    rw [executePlaybackError_none hnone]
    exact h
  next current hcurrent =>
  split
  · next hid => exact sound_executePlaybackError h (hfits.1 hid) _
  · refine sound_executePlaybackFinished ?_ a
    have hmuted : Sound N F (s.updateInfo current fun info => {info with sendCompletedMessage := false}) :=
      h.updateInfo current (fun hother => (hother hcurrent).elim) fun _ => ⟨fun _ => rfl,h.reader current hcurrent⟩
    unfold tellStopped
    dsimp only
    split
    · exact hmuted
    · next hflag =>
      rw [updateInfo_self] at hflag
      have hunanswered := hfits.2 current hcurrent (eq_false_iff.mpr hflag)
      refine hmuted.fail hcurrent hunanswered _ ?_
      rw [updateInfo_self]

theorem sound_executeOnDialogUXStateChanged (newState : TemplateRuntime.DialogUXState) :
    Sound N F (s.executeOnDialogUXStateChanged newState) := by
  unfold executeOnDialogUXStateChanged
  split
  · exact h.congr rfl
  split
  · exact h
  split
  · exact h.congr rfl
  · exact h

theorem sound_executeHandle (a : Answers) (hfits : s.currentInfo=none → s.speakInfoQueue.head?=some directive) :
    Sound N F (s.executeHandleAfterValidation directive a) := by
  obtain hcurrent|⟨current,hcurrent⟩ := eq_none_or_eq_some s.currentInfo
  · exact sound_executeHandle_front h hcurrent (hfits hcurrent) a
  · have hsome : (mark s directive).currentInfo.isSome=true := congrArg isSome hcurrent
    have hmarked : Sound N F (mark s directive) := by
      refine h.updateInfo directive (fun _ => ⟨rfl,fun _ => rfl⟩) (fun hself => ?_)
      exact ⟨h.muted directive hself,h.reader directive hself⟩
    unfold executeHandleAfterValidation
    dsimp only
    unfold mark at hsome hmarked
    rw [hsome,if_pos rfl]
    exact hmarked

/-- The directives that are to be pre-handled, now or later. -/
def Coming (s : Synthesizer) (directive : ℕ) : Prop :=
  (∃ speak,Task.preHandle directive speak∈s.tasks) ∨ s.directives≤directive

/-- What is known between two steps. -/
structure Inv (s : Synthesizer) : Prop where
  sound : Sound (Coming s) (s.tasks,s.directives) s
  counted : ∀ directive speak,Task.preHandle directive speak∈s.tasks → directive<s.directives
  once : s.tasks.Pairwise fun earlier later =>
    ∀ directive speak speak',earlier=Task.preHandle directive speak → later≠.preHandle directive speak'

def Allowed (s : Synthesizer) : Event → Prop
  | .perform a => ∀ task∈s.tasks.head?,Fits s a task
  | _ => True

theorem Sound.mono {M : ℕ → Prop} (hsub : ∀ directive,M directive → N directive) : Sound M F s :=
  ⟨h.frame,h.history,h.nodup,h.queue,h.muted,h.reader,h.source,
    fun directive hcome => h.coming directive (hsub directive hcome)⟩

end

variable {rest : List Task} {task : Task}

section

variable (h : Inv s)
include h

theorem inv_of_sound (htasks : s.tasks=task::rest)
    (hsound : Sound (Coming {s with tasks := rest}) (rest,s.directives) t) : Inv t := by
  obtain ⟨htasks',hdirectives⟩ := Prod.mk.inj hsound.frame
  have honce := h.once
  rw [htasks] at honce
  refine ⟨?_,?_,?_⟩
  · rw [htasks',hdirectives]
    refine hsound.mono fun directive hcome => ?_
    unfold Coming at hcome ⊢
    rw [htasks',hdirectives] at hcome
    exact hcome
  · intro directive speak htask
    rw [htasks'] at htask
    rw [hdirectives]
    refine h.counted directive speak ?_
    rw [htasks]
    exact mem_cons_of_mem _ htask
  · rw [htasks']
    exact (pairwise_cons.mp honce).2

theorem sound_pop (htasks : s.tasks=task::rest) :
    Sound (Coming {s with tasks := rest}) (rest,s.directives) {s with tasks := rest} := by
  have hpopped : Sound (Coming s) (rest,s.directives) {s with tasks := rest} :=
    h.sound.reframe {s with tasks := rest} rfl
  refine hpopped.mono fun directive hcome => ?_
  obtain ⟨speak,htask⟩|hless := hcome
  · refine .inl ⟨speak,?_⟩
    rw [htasks]
    exact mem_cons_of_mem _ htask
  · exact .inr hless

theorem inv_preHandle
    (htasks : s.tasks=.preHandle directive speak::rest) (hfits : Fits s a (.preHandle directive speak)) :
    Inv ({s with tasks := rest}.executePreHandle directive speak a) := by
  have hmem : Task.preHandle directive speak∈s.tasks := by
    rw [htasks]
    exact mem_cons_self
  have honce := h.once
  rw [htasks] at honce
  have hpopped : Sound (Coming s) (rest,s.directives) {s with tasks := rest} :=
    h.sound.reframe {s with tasks := rest} rfl
  have hnew : New {s with tasks := rest} directive := hpopped.coming directive (.inl ⟨speak,hmem⟩)
  have hsound : Sound (Others (Coming s) directive) (rest,s.directives)
      ({s with tasks := rest}.executePreHandle directive speak a) :=
    sound_preHandle hpopped hnew hfits.1 hfits.2
  refine inv_of_sound h htasks (hsound.mono fun other hcome => ?_)
  obtain ⟨speak',htask⟩|hless := hcome
  · refine ⟨.inl ⟨speak',?_⟩,?_⟩
    · rw [htasks]
      exact mem_cons_of_mem _ htask
    · rintro rfl
      exact (pairwise_cons.mp honce).1 _ htask other speak speak' rfl rfl
  · refine ⟨.inr hless,?_⟩
    rintro rfl
    exact Nat.not_lt_of_le hless (h.counted other speak hmem)

theorem inv_perform (hallowed : Allowed s (.perform a)) : Inv (s.perform a) := by
  unfold perform
  split
  · exact h
  next task rest htasks =>
  have hfits : Fits s a task := hallowed task (by rw [htasks]; exact rfl)
  have hpopped := sound_pop h htasks
  cases task with
  | preHandle => exact inv_preHandle h htasks hfits
  | handle => exact inv_of_sound h htasks (sound_executeHandle hpopped a hfits)
  | cancel directive => exact inv_of_sound h htasks (sound_executeCancel hpopped directive a hfits)
  | stateChange newState =>
    have hcaptured : Sound (Coming {s with tasks := rest}) (rest,s.directives) {s with
        tasks := rest
        captured := s.currentInfo} := hpopped.congr rfl
    refine inv_of_sound h htasks (sound_executeStateChange hcaptured ?_)
    cases newState with
    | PLAYING => exact hfits
    | INTERRUPTED => exact hfits
    | FINISHED => exact trivial
    | GAINING_FOCUS => exact trivial
    | LOSING_FOCUS => exact trivial
  | stateChangeTimeout => exact inv_of_sound h htasks (sound_executeStateChangeTimeout hpopped hfits)
  | playbackStarted => exact inv_of_sound h htasks (sound_onPlaybackStarted hpopped hfits)
  | playbackFinished id =>
    refine inv_of_sound h htasks ?_
    change Sound _ _ ({s with tasks := rest}.onPlaybackFinished id a)
    unfold onPlaybackFinished
    split
    · next hid => exact sound_executePlaybackError hpopped (hfits hid) _
    · exact sound_executePlaybackFinished hpopped a
  | playbackStopped => exact inv_of_sound h htasks (sound_onPlaybackStopped hpopped hfits)
  | playbackError id error => exact inv_of_sound h htasks (sound_executePlaybackError hpopped hfits error)
  | dialogUXStateChanged newState =>
    exact inv_of_sound h htasks (sound_executeOnDialogUXStateChanged hpopped newState)

theorem inv_of_body (hbody : body t=body s) (hdirectives : t.directives=s.directives) (htasks : t.tasks=s.tasks ∨
      ∃ task,(∀ directive speak,task≠Task.preHandle directive speak) ∧ t.tasks=s.tasks++[task]) : Inv t := by
  have hmem : ∀ directive speak,Task.preHandle directive speak∈t.tasks → Task.preHandle directive speak∈s.tasks := by
    intro directive speak htask
    obtain hsame|⟨task,hne,hsubmitted⟩ := htasks
    · rw [hsame] at htask
      exact htask
    · rw [hsubmitted] at htask
      refine (mem_append.mp htask).resolve_right fun hlast => ?_
      exact hne directive speak (mem_singleton.mp hlast).symm
  refine ⟨?_,?_,?_⟩
  · refine (h.sound.reframe t hbody).mono fun directive hcome => ?_
    obtain ⟨speak,htask⟩|hless := hcome
    · exact .inl ⟨speak,hmem directive speak htask⟩
    · rw [hdirectives] at hless
      exact .inr hless
  · intro directive speak htask
    rw [hdirectives]
    exact h.counted directive speak (hmem directive speak htask)
  · obtain hsame|⟨task,hne,hsubmitted⟩ := htasks
    · rw [hsame]
      exact h.once
    · rw [hsubmitted]
      refine pairwise_append.mpr ⟨h.once,pairwise_singleton _ _,?_⟩
      rintro earlier _ later hlater directive speak speak' _ heq
      rw [mem_singleton.mp hlater] at heq
      exact hne directive speak' heq

theorem Inv.submit (hne : ∀ directive speak,task≠Task.preHandle directive speak) : Inv (s.submit task) :=
  inv_of_body h rfl rfl (.inr ⟨task,hne,rfl⟩)

theorem inv_onFocusChanged (newFocus : FocusState) (requests : List ChannelRequest) :
    Inv ({s with requests := requests}.onFocusChanged newFocus) := by
  obtain ⟨state,waiting,tasks,heq,hsame|⟨desiredState,hsubmitted⟩⟩ :=
    SpeechProgress.onFocusChanged_eq {s with requests := requests} newFocus
  · rw [heq,hsame]
    exact inv_of_body h rfl rfl (.inl rfl)
  · rw [heq,hsubmitted]
    exact inv_of_body h rfl rfl (.inr ⟨.stateChange desiredState,by simp,rfl⟩)

theorem inv_preHandleDirective (speak : Speak) :
    Inv ({s with directives := s.directives+1}.submit (.preHandle s.directives speak)) := by
  refine ⟨?_,?_,?_⟩
  · have hsound : Sound (Coming s) (s.tasks++[.preHandle s.directives speak],s.directives+1)
        ({s with directives := s.directives+1}.submit (.preHandle s.directives speak)) :=
      h.sound.reframe ({s with directives := s.directives+1}.submit (.preHandle s.directives speak)) rfl
    refine hsound.mono fun directive hcome => ?_
    obtain ⟨speak',htask⟩|hless := hcome
    · obtain hbefore|hlast := mem_append.mp htask
      · exact .inl ⟨speak',hbefore⟩
      · cases mem_singleton.mp hlast
        exact .inr (le_refl _)
    · exact .inr (le_of_succ_le hless)
  · intro directive speak' htask
    obtain hbefore|hlast := mem_append.mp htask
    · exact lt_succ_of_lt (h.counted directive speak' hbefore)
    · cases mem_singleton.mp hlast
      exact lt_succ_self _
  · refine pairwise_append.mpr ⟨h.once,pairwise_singleton _ _,?_⟩
    rintro earlier hearlier later hlater directive first second rfl heq
    rw [mem_singleton.mp hlater] at heq
    cases heq
    exact lt_irrefl _ (h.counted _ _ hearlier)

theorem inv_next {event : Event} (hallowed : Allowed s event) : Inv (s.next event) := by
  cases event with
  | preHandleDirective speak => exact inv_preHandleDirective h speak
  | handleDirective | onDialogUXStateChanged | onPlaybackStarted => exact h.submit (by simp)
  | cancelDirective directive =>
    have hnoted : Inv (s.note (.cancelled directive)) :=
      ⟨h.sound.note rfl nofun,h.counted,h.once⟩
    exact hnoted.submit (by simp)
  | onPlaybackFinished id => exact inv_of_body h rfl rfl (.inr ⟨.playbackFinished id,by simp,rfl⟩)
  | onPlaybackStopped id => exact inv_of_body h rfl rfl (.inr ⟨.playbackStopped id,by simp,rfl⟩)
  | onPlaybackError id error => exact inv_of_body h rfl rfl (.inr ⟨.playbackError id error,by simp,rfl⟩)
  | acquired newFocus => exact inv_onFocusChanged h newFocus _
  | released held =>
    cases held with
    | true => exact inv_onFocusChanged h .none _
    | false => exact inv_of_body h rfl rfl (.inl rfl)
  | focusChanged newFocus => exact inv_onFocusChanged h newFocus s.requests
  | stateChanged => exact inv_of_body h rfl rfl (.inl rfl)
  | stateChangeTimeout => exact inv_of_body h rfl rfl (.inr ⟨.stateChangeTimeout,by simp,rfl⟩)
  | perform => exact inv_perform h hallowed

end

theorem inv_create : Inv create := by
  refine ⟨⟨rfl,⟨List.nodup_nil,List.Pairwise.nil,?_⟩,List.nodup_nil,?_,?_,?_,fun hsome => (hsome rfl).elim,?_⟩,
    ?_,List.Pairwise.nil⟩
  · intro directive reader hmem
    cases hmem
  · intro directive hmem
    cases hmem
  · intro current hcurrent
    cases hcurrent
  · intro current hcurrent
    cases hcurrent
  · exact fun directive _ => ⟨List.not_mem_nil,List.not_mem_nil,(fun hother => by cases hother),rfl⟩
  · intro directive speak htask
    cases htask

/-- Results are reported once, and what has failed is not played. -/
theorem results_once {trace : List Event} (run : Run (Guarded Step Allowed) create trace s) : Once s.history := by
  have hinv : Inv s := run.invariant Inv inv_create fun u event v hu hstep => by
    obtain ⟨hallowed,_,heq⟩ := hstep
    rw [heq]
    exact inv_next hu hallowed
  exact hinv.sound.history

theorem allowed_perform (htasks : s.tasks=task::rest) (hfits : Fits s a task) : Allowed s (.perform a) := by
  intro other hother
  rw [htasks] at hother
  cases hother
  exact hfits

theorem complete_enqueued : Complete enqueued := by
  rintro _ payload hpayload token format _ hformat
  cases hpayload
  cases hformat
  exact ⟨rfl,fun _ _ _ _ => rfl⟩

/-- A directive that is spoken is played once and completed once. -/
theorem results_once_after_one : Once [.played 0 true,.sent "SpeechStarted" "token",.sent "SpeechFinished" "token",
    .completed 0] := by
  have hstart : Run (Guarded Step Allowed) create [] create := Run.refl
  have hhandled := ((hstart.allow (step_next (.preHandleDirective enqueued) trivial) trivial).allow
    (step_next (.perform granted) trivial)
    (allowed_perform rfl ⟨complete_enqueued,nofun⟩)).allow
    (step_next (.handleDirective 0) Nat.zero_lt_one) trivial
  have hasked := hhandled.allow (step_next (.perform granted) trivial)
    (@allowed_perform _ granted [] (.handle 0) rfl (fun _ => rfl))
  have hunanswered : ∀ current : ℕ,some 0=some current → current∉results [] := fun _ _ => not_mem_nil
  have hplaying := (hasked.allow (step_next (.acquired .foreground) ⟨rfl,nofun,rfl⟩) trivial).allow
    (step_next (.perform granted) trivial)
    (@allowed_perform _ granted [] (.stateChange .PLAYING) rfl ⟨hunanswered,fun current hcurrent => by
      cases hcurrent
      rfl⟩)
  have hstarted := ((hplaying.allow (step_next (.onPlaybackStarted 0) trivial) trivial).allow
    (step_next (.perform granted) trivial)
    (@allowed_perform _ granted [] (.playbackStarted 0) rfl (fun hne => (hne rfl).elim))).allow
    (step_next (.onPlaybackFinished 0) trivial) trivial
  have hfinished := hstarted.allow (step_next (.perform granted) trivial)
    (@allowed_perform _ granted [] (.playbackFinished 0) rfl (fun hne => (hne rfl).elim))
  exact results_once hfinished

/-- Directives are handled while they have no result and were not cancelled. -/
def InDomain (s : Synthesizer) : Event → Prop
  | .handleDirective directive => ¬Done s directive
  | _ => True

/-- A directive with another format and no attachment. -/
def incomplete : Speak :=
  ⟨"Speak",some ⟨.string "token",.string "AUDIO_WAV",.string "cid:speech",.missing⟩,fun _ => false⟩

/-- Another format fails twice. -/
theorem unknown_format_fails_twice : ∃ trace s,Run (Guarded Step InDomain) create trace s ∧ ¬Once s.history := by
  have hstart : Run (Guarded Step InDomain) create [] create := Run.refl
  have hfailed := (hstart.allow (step_next (.preHandleDirective incomplete) trivial) trivial).allow
    (step_next (.perform granted) trivial) trivial
  refine ⟨_,_,hfailed,fun honce => ?_⟩
  have hnodup := honce.once
  revert hnodup
  decide +kernel

end AlexaClientSDK.SpeakResults
