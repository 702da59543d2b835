import AlexaClientSDK.LabelledRuns
import AlexaClientSDK.AudioInputProcessor

/-!
# The state of a capture is coherent

A reader is held while a capture is recognized, and only then. The exception is a recognition that may override the
running capture and cannot open its own audio: the reader has been given up by then, and the state stays.
-/

namespace AlexaClientSDK.CaptureCoherence

open LabelledRuns FocusChannel AudioInputProcessor Processor

variable {s : Processor}

section

variable (s)

/-- The provider may be recognized from. -/
def Admits (provider : AudioProvider) : Prop :=
  provider.stream.isSome=true ∧ provider.format.avsEncodingFormat.isSome=true ∧ s.admits provider=true

def Opens (answers : Answers) : Prop :=
  (s.encoder.isSome=true → answers.startsEncoding=true) ∧ answers.createsReader=true

/-- The call gets as far as its provider. -/
def Reaches (call : RecognizeCall) (answers : Answers) : Prop :=
  call.keyword.toUpper ≠ "STOP" ∧ ¬(call.initiator=.WAKEWORD ∧ call.keyword = "") ∧
    (call.audioProvider.stream.isSome=true → call.begin=INVALID_INDEX → answers.tell.isSome=true)

/-- A recognition is refused, or cannot open its audio, or starts a capture. -/
theorem executeRecognize_cases (provider : AudioProvider) (initiatorJson : Option InitiatorJson)
    (startOfSpeechTimestamp : ℤ) (begin : ℕ) (KWDMetadata : Option String) (answers : Answers) : (¬Admits s provider ∧
      s.executeRecognize provider initiatorJson startOfSpeechTimestamp begin KWDMetadata answers=(s,false)) ∨
    (Admits s provider ∧ ¬Opens s answers ∧ ∃ reader,(reader=none ∨ s.state≠.RECOGNIZING ∧ reader=s.reader) ∧
      s.executeRecognize provider initiatorJson startOfSpeechTimestamp begin KWDMetadata answers =
        ({s with reader := reader,precedingExpectSpeechInitiator := none},false)) ∨
    (Admits s provider ∧ Opens s answers ∧ ∃ payload reader,reader.number=s.recognitions.length ∧
      s.executeRecognize provider initiatorJson startOfSpeechTimestamp begin KWDMetadata answers =
        ({s with precedingExpectSpeechInitiator := none}.startCapture provider payload reader KWDMetadata answers,
          true)) := by
  unfold executeRecognize Admits Opens
  cases hstream : provider.stream with
  | none => exact .inl ⟨fun h => Bool.noConfusion h.1,rfl⟩
  | some =>
    cases hformat : provider.format.avsEncodingFormat with
    | none => exact .inl ⟨fun h => Bool.noConfusion h.2.1,rfl⟩
    | some =>
      dsimp only
      cases hadmits : s.admits provider with
      | false => exact .inl ⟨fun h => Bool.noConfusion h.2.2,rfl⟩
      | true =>
        right
        rw [if_neg (by decide)]
        by_cases hstarts : (s.encoder.isSome && !answers.startsEncoding)=true
        · left
          rw [if_pos hstarts]
          rw [Bool.and_eq_true,Bool.not_eq_true'] at hstarts
          refine ⟨⟨rfl,rfl,rfl⟩,?_,_,?_,rfl⟩
          · intro hopens
            rw [hopens.1 hstarts.1] at hstarts
            exact Bool.noConfusion hstarts.2
          · by_cases hstate : s.state=.RECOGNIZING
            · exact .inl (if_pos hstate)
            · exact .inr ⟨hstate,if_neg hstate⟩
        · rw [if_neg hstarts]
          cases hcreates : answers.createsReader with
          | false =>
            left
            exact ⟨⟨rfl,rfl,rfl⟩,fun hopens => Bool.noConfusion hopens.2,none,.inl rfl,rfl⟩
          | true =>
            right
            rw [if_neg (by decide)]
            refine ⟨⟨rfl,rfl,rfl⟩,⟨?_,rfl⟩,_,_,rfl,rfl⟩
            intro hencoder
            rw [hencoder,Bool.true_and,Bool.not_eq_true',Bool.not_eq_false] at hstarts
            exact hstarts

/-- It is refused before, or it recognizes from its provider. -/
theorem recognize_cases (call : RecognizeCall) (answers : Answers) :
    (¬Reaches call answers ∧ s.recognize call answers=(s,false)) ∨
    (Reaches call answers ∧ ∃ initiatorJson begin,s.recognize call answers =
      s.executeRecognize call.audioProvider (some initiatorJson) call.startOfSpeechTimestamp begin call.KWDMetadata
        answers) := by
  unfold recognize Reaches
  by_cases hstop : call.keyword.toUpper = "STOP"
  · rw [if_pos hstop]
    exact .inl ⟨fun h => h.1 hstop,rfl⟩
  rw [if_neg hstop]
  have hcall : ∀ begin,(¬(call.initiator=.WAKEWORD ∧ call.keyword = "") ∧ ∃ initiatorJson begin',
      s.executeRecognizeCall call begin answers=s.executeRecognize call.audioProvider (some initiatorJson)
        call.startOfSpeechTimestamp begin' call.KWDMetadata answers) ∨
      ((call.initiator=.WAKEWORD ∧ call.keyword = "") ∧ s.executeRecognizeCall call begin answers=(s,false)) := by
    intro begin
    unfold executeRecognizeCall
    by_cases hempty : call.initiator=.WAKEWORD ∧ call.keyword = ""
    · rw [if_pos hempty]
      exact .inr ⟨hempty,rfl⟩
    · rw [if_neg hempty]
      exact .inl ⟨hempty,_,_,rfl⟩
  by_cases hnew : call.audioProvider.stream.isSome=true ∧ call.begin=INVALID_INDEX
  · rw [if_pos hnew]
    cases htell : answers.tell with
    | none =>
      left
      exact ⟨fun h => Bool.noConfusion (h.2.2 hnew.1 hnew.2),rfl⟩
    | some begin =>
      obtain ⟨hword,hexists⟩|⟨hempty,heq⟩ := hcall begin
      · exact .inr ⟨⟨hstop,hword,fun _ _ => rfl⟩,hexists⟩
      · exact .inl ⟨fun h => h.2.1 hempty,heq⟩
  · rw [if_neg hnew]
    obtain ⟨hword,hexists⟩|⟨hempty,heq⟩ := hcall call.begin
    · exact .inr ⟨⟨hstop,hword,fun hstream hbegin => (hnew ⟨hstream,hbegin⟩).elim⟩,hexists⟩
    · exact .inl ⟨fun h => h.2.1 hempty,heq⟩

structure Coherent (s : Processor) : Prop where
  reader : s.reader.isSome=true ↔ s.state=.RECOGNIZING
  deferred : s.deferredStopCapture.isSome=true → s.state=.RECOGNIZING ∧ s.preparingToSend=true
  dereferenced : s.nullDereferenced=false

/-- What is known between two tasks. -/
structure Inv (s : Processor) : Prop extends Coherent s where
  preparing : s.preparingToSend=true → s.state=.RECOGNIZING

/-- A recognition that may override the running capture can open its audio. -/
def Allowed : ProcessorTask → Prop
  | .recognize call answers =>
    s.state=.RECOGNIZING → Reaches call answers → Admits s call.audioProvider → Opens s answers
  | _ => True

/-- A task is done. Anything can happen at any time. -/
def Step (task : ProcessorTask) (t : Processor) : Prop := t=s.perform task

theorem report_eq (info : Option DirectiveInfo) (failure : Option String) :
    ∃ results,s.report info failure={s with results := results} := by
  unfold report
  split
  · split
    · exact ⟨_,rfl⟩
    · exact ⟨s.results,rfl⟩
  · exact ⟨s.results,rfl⟩

end

theorem stopCapture_eq (hreader : s.reader.isSome=true) (stop : StopCapture) :
    ∃ results,s.stopCapture stop={s with
      reader := none
      state := .BUSY
      stops := s.stops++[(stop.capture,s.recognitions.length)]
      results := results} := by
  have hsome : ¬(s.encoder=none ∧ s.reader=none) := by
    rintro ⟨-,hnone⟩
    rw [hnone] at hreader
    cases hreader
  unfold stopCapture
  rw [if_neg hsome]
  exact report_eq _ _ _

/-- The members that a capture is kept in, but for the state. -/
def capture (s : Processor) := (s.reader,s.deferredStopCapture,s.preparingToSend,s.nullDereferenced)

section

variable (h : Inv s)
include h

theorem inv_executeResetState : Inv s.executeResetState where
  reader := ⟨nofun,nofun⟩
  deferred := nofun
  dereferenced := h.dereferenced
  preparing := nofun

theorem Inv.congr {t : Processor} (hsame : capture t=capture s) (hstate : t.state=s.state) : Inv t := by
  simp only [capture,Prod.mk.injEq] at hsame
  obtain ⟨hreader,hdeferred,hpreparing,hdereferenced⟩ := hsame
  refine {reader := ?_,deferred := ?_,dereferenced := hdereferenced.trans h.dereferenced,preparing := ?_}
  · rw [hreader,hstate]
    exact h.reader
  · rw [hdeferred,hstate,hpreparing]
    exact h.deferred
  · rw [hstate,hpreparing]
    exact h.preparing

theorem Inv.leave {t : Processor} (hstate : s.state≠.RECOGNIZING) (hleft : t.state≠.RECOGNIZING)
    (hsame : capture t=capture s) : Inv t := by
  simp only [capture,Prod.mk.injEq] at hsame
  obtain ⟨hreader,hdeferred,hpreparing,hdereferenced⟩ := hsame
  refine {reader := ?_,deferred := ?_,dereferenced := hdereferenced.trans h.dereferenced,preparing := ?_}
  · rw [hreader]
    exact ⟨fun hsome => (hstate (h.reader.mp hsome)).elim,fun hrecognizing => (hleft hrecognizing).elim⟩
  · rw [hdeferred]
    exact fun hsome => (hstate (h.deferred hsome).1).elim
  · rw [hpreparing]
    exact fun hsome => (hstate (h.preparing hsome)).elim

theorem inv_report (info : Option DirectiveInfo) (failure : Option String) : Inv (s.report info failure) := by
  obtain ⟨results,heq⟩ := report_eq s info failure
  rw [heq]
  exact h.congr rfl rfl

theorem inv_stopCapture (hstate : s.state=.RECOGNIZING) (hsent : s.preparingToSend=false)
    (stop : StopCapture) : Inv (s.stopCapture stop) := by
  have hdeferred : s.deferredStopCapture.isSome≠true := by
    intro hsome
    rw [(h.deferred hsome).2] at hsent
    cases hsent
  obtain ⟨results,heq⟩ := stopCapture_eq (h.reader.mpr hstate) stop
  rw [heq]
  refine ⟨⟨⟨nofun,nofun⟩,?_,h.dereferenced⟩,?_⟩
  · exact fun hsome => (hdeferred hsome).elim
  · intro hpreparing
    rw [show s.preparingToSend=true from hpreparing] at hsent
    cases hsent

/-- A capture is stopped at once, or when its request has been sent. -/
theorem inv_executeStopCapture (stopImmediately : Bool) (info : Option DirectiveInfo) :
    Inv (s.executeStopCapture stopImmediately info) := by
  unfold executeStopCapture
  split
  · exact h
  split
  · split
    · split
      · have hdone : Inv {s with localStopCapturePerformed := false} := h.congr rfl rfl
        exact inv_report hdone info none
      · exact inv_report h info _
    · exact h
  next hstate =>
  rw [Decidable.not_not] at hstate
  dsimp only
  have hlocal : Inv {s with localStopCapturePerformed := s.localStopCapturePerformed || info.isNone} :=
    h.congr rfl rfl
  split
  · next hpreparing => exact ⟨⟨h.reader,fun _ => ⟨hstate,hpreparing⟩,h.dereferenced⟩,h.preparing⟩
  · next hpreparing => exact inv_stopCapture hlocal hstate (by simpa using hpreparing) _

/-- A request is sent, and a stop that waited for it is carried out. -/
theorem inv_sendRequestNow (hstate : s.state=.RECOGNIZING) : Inv s.sendRequestNow := by
  unfold sendRequestNow
  split
  · exact h
  · next request _ =>
    dsimp only
    split
    · next hnone =>
      refine ⟨⟨h.reader,?_,h.dereferenced⟩,nofun⟩
      intro hsome
      rw [show s.deferredStopCapture=none from hnone] at hsome
      cases hsome
    · next stop _ =>
      have hreader : ({s with
          recognizeRequestSent := some request
          events := s.events++[Event.recognize request]
          recognizeRequest := none
          preparingToSend := false} : Processor).reader.isSome=true := h.reader.mpr hstate
      obtain ⟨results,heq⟩ := stopCapture_eq hreader stop
      rw [heq]
      exact ⟨⟨⟨nofun,nofun⟩,
        nofun,h.dereferenced⟩,nofun⟩

theorem inv_executeOnContextAvailable (jsonContext : String) (acquiresChannel : Bool) :
    Inv (s.executeOnContextAvailable jsonContext acquiresChannel) := by
  unfold executeOnContextAvailable
  split
  · exact h
  next hstate =>
  rw [Decidable.not_not] at hstate
  split
  · exact inv_executeResetState h
  · exact inv_executeResetState h
  · next reader payload _ _ =>
    split
    · exact inv_executeResetState h
    · have hbuilt : Inv (s.buildRequest payload reader jsonContext) := by
        unfold buildRequest
        split <;> exact h.congr rfl rfl
      dsimp only
      split
      · refine inv_sendRequestNow hbuilt ?_
        unfold buildRequest
        split <;> exact hstate
      · exact hbuilt

theorem inv_executeOnFocusChanged (newFocus : FocusState) : Inv (s.executeOnFocusChanged newFocus) := by
  have hfocus : Inv {s with focusState := newFocus} := h.congr rfl rfl
  unfold executeOnFocusChanged
  dsimp only
  split
  · exact inv_executeResetState hfocus
  split
  · exact hfocus
  · next hstate => exact inv_sendRequestNow hfocus (Decidable.not_not.mp hstate)

theorem inv_executeRecognize (provider : AudioProvider) (initiatorJson : Option InitiatorJson)
    (startOfSpeechTimestamp : ℤ) (begin : ℕ) (KWDMetadata : Option String) {answers : Answers}
    (hopens : s.state=.RECOGNIZING → Admits s provider → Opens s answers) :
    Inv (s.executeRecognize provider initiatorJson startOfSpeechTimestamp begin KWDMetadata answers).1 := by
  obtain ⟨-,heq⟩|⟨hadmits,hcloses,reader,hreader,heq⟩|⟨-,-,payload,reader,-,heq⟩ :=
    executeRecognize_cases s provider initiatorJson startOfSpeechTimestamp begin KWDMetadata answers
  · rw [heq]
    exact h
  · have hstate : s.state≠.RECOGNIZING := fun hstate => hcloses (hopens hstate hadmits)
    have hnone : s.reader=none := by
      rw [←Option.not_isSome_iff_eq_none]
      exact fun hsome => hstate (h.reader.mp hsome)
    have hsame : reader=s.reader := by
      obtain hgone|⟨-,hsame⟩ := hreader
      · rw [hgone,hnone]
      · exact hsame
    rw [heq,hsame]
    exact h.congr rfl rfl
  · rw [heq]
    exact ⟨⟨⟨fun _ => rfl,fun _ => rfl⟩,fun _ => ⟨rfl,rfl⟩,h.dereferenced⟩,fun _ => rfl⟩

theorem inv_recognize {call : RecognizeCall} {answers : Answers}
    (hallowed : Allowed s (.recognize call answers)) : Inv (s.recognize call answers).1 := by
  obtain ⟨-,heq⟩|⟨hreaches,initiatorJson,begin,heq⟩ := recognize_cases s call answers
  · rw [heq]
    exact h
  · rw [heq]
    exact inv_executeRecognize h _ _ _ _ _ fun hstate => hallowed hstate hreaches

theorem inv_executeExpectSpeech (info : DirectiveInfo) (initiator : Option String) (now : ℤ)
    (answers : Answers) : Inv (s.executeExpectSpeech info initiator now answers) := by
  unfold executeExpectSpeech
  split
  · exact h
  split
  · exact inv_report h _ _
  next hstate =>
  have hfree : s.state≠.RECOGNIZING := by
    intro hrecognizing
    rw [hrecognizing] at hstate
    exact hstate ⟨by decide,by decide⟩
  dsimp only
  obtain ⟨timer,htimer,-⟩ :=
    startTimer_cases {s with precedingExpectSpeechInitiator := some (initiator.getD "")}
  rw [htimer]
  obtain ⟨results,hresults⟩ := report_eq
    {s with
      precedingExpectSpeechInitiator := some (initiator.getD "")
      expectingSpeechTimer := timer
      state := .EXPECTING_SPEECH
      expectations := s.expectations+1} (some info) none
  rw [hresults]
  have hexpects : Inv {s with
      precedingExpectSpeechInitiator := some (initiator.getD "")
      expectingSpeechTimer := timer
      state := .EXPECTING_SPEECH
      expectations := s.expectations+1
      results := results} :=
    h.leave hfree nofun rfl
  split
  · exact inv_executeRecognize hexpects _ _ _ _ _ nofun
  split
  · exact inv_executeRecognize hexpects _ _ _ _ _ nofun
  · exact hexpects

theorem inv_perform {task : ProcessorTask} (hallowed : Allowed s task) : Inv (s.perform task) := by
  cases task with
  | recognize => exact inv_recognize h hallowed
  | stopCapture => exact inv_executeStopCapture h false none
  | stopCaptureDirective info => exact inv_executeStopCapture h true (some info)
  | resetState => exact inv_executeResetState h
  | contextAvailable jsonContext acquiresChannel =>
    have htaken : Inv {s with contexts := s.contexts.tail} := h.congr rfl rfl
    exact inv_executeOnContextAvailable htaken jsonContext acquiresChannel
  | contextFailure =>
    have htaken : Inv {s with contexts := s.contexts.tail} := h.congr rfl rfl
    exact inv_executeResetState htaken
  | focusChanged newFocus => exact inv_executeOnFocusChanged h newFocus
  | dialogUXStateChanged newState =>
    change Inv (s.executeOnDialogUXStateChanged newState)
    unfold executeOnDialogUXStateChanged
    split
    · exact h.congr rfl rfl
    split
    · exact h
    · exact inv_executeResetState h
  | expectSpeech info initiator now answers => exact inv_executeExpectSpeech h info initiator now answers
  | timerExpires =>
    unfold perform
    dsimp only
    split
    · exact h.congr rfl rfl
    · exact h
    · exact h
  | timerEnds =>
    unfold perform
    dsimp only
    split
    · exact h.congr rfl rfl
    · exact h
  | expectSpeechTimedOut =>
    unfold perform
    dsimp only
    split
    · next timer rest _ =>
      have htaken : Inv {s with timerTasks := rest} := h.congr rfl rfl
      unfold executeExpectSpeechTimedOut
      split
      · exact htaken
      · next hstate =>
        rw [Decidable.not_not] at hstate
        have hfree : s.state≠.RECOGNIZING := by
          rw [show s.state=.EXPECTING_SPEECH from hstate]
          decide
        exact h.leave hfree (fun hidle => State.noConfusion hidle) rfl
    · exact h
  | sendCompleted success =>
    cases success with
    | true => exact inv_executeStopCapture h false none
    | false => exact inv_executeResetState h
  | disconnected =>
    change Inv s.executeDisconnected
    unfold executeDisconnected
    split
    · exact inv_executeResetState h
    · exact h

end

/-- A recognition that returns false leaves the capture in progress. -/
def KeepsCapture (s : Processor) (call : RecognizeCall) (answers : Answers) : Prop :=
  s.state=.RECOGNIZING → (s.recognize call answers).2=false →
    (s.recognize call answers).1.state=s.state ∧ (s.recognize call answers).1.reader=s.reader

/-- Over every run in which recognitions that may override a running capture can open their audio,
the state of the capture is coherent, and a recognition that returns false leaves it. -/
theorem capture_coherent {encoder : Option (Option String)} {defaultAudioProvider : AudioProvider}
    {tasks : List ProcessorTask} (run : Run (Guarded Step Allowed) (create encoder defaultAudioProvider) tasks s) :
    Coherent s ∧ ∀ call answers,Allowed s (.recognize call answers) → KeepsCapture s call answers := by
  have hinv : Inv s := by
    refine run.invariant Inv ?_ ?_
    · exact ⟨⟨⟨nofun,nofun⟩,
        nofun,rfl⟩,nofun⟩
    · rintro s task _ hs ⟨hallowed,rfl⟩
      exact inv_perform hs hallowed
  refine ⟨hinv.toCoherent,?_⟩
  intro call answers hallowed hstate hrefused
  obtain ⟨-,heq⟩|⟨hreaches,initiatorJson,begin,heq⟩ := recognize_cases s call answers
  · rw [heq]
    exact ⟨rfl,rfl⟩
  rw [heq] at hrefused ⊢
  obtain ⟨-,heq⟩|⟨hadmits,hcloses,-⟩|⟨-,-,payload,reader,-,heq⟩ :=
    executeRecognize_cases s call.audioProvider (some initiatorJson) call.startOfSpeechTimestamp begin
      call.KWDMetadata answers
  · rw [heq]
    exact ⟨rfl,rfl⟩
  · exact (hcloses (hallowed hstate hreaches hadmits)).elim
  · rw [heq] at hrefused
    cases hrefused

/-- A provider whose captures may be overridden. -/
def microphone : AudioProvider := ⟨some 0,⟨.LPCM,.LITTLE,16000,16,1⟩,.NEAR_FIELD,false,true,true⟩

def tap : RecognizeCall := ⟨microphone,.TAP,0,0,INVALID_INDEX,"",none,""⟩

/-- Whether a reader can be made is left open. -/
def answer (createsReader : Bool) : Answers := ⟨none,true,createsReader,true,"request"⟩

/-- A stop waits for the request; then the context and the focus come. -/
theorem capture_coherent_stopped :
    ∃ tasks s,Run (Guarded Step Allowed) (create none .null) tasks s ∧ s.state=.BUSY ∧ s.events≠[] ∧ Coherent s := by
  have run := (@Run.refl _ _ (Guarded Step Allowed) (create none .null)).allow
    (show Step _ (.recognize tap (answer true)) _ from rfl) nofun
  have run := run.allow (show Step _ .stopCapture _ from rfl) trivial
  have run := run.allow (show Step _ (.contextAvailable "context" true) _ from rfl) trivial
  have run := run.allow (show Step _ (.focusChanged .foreground) _ from rfl) trivial
  exact ⟨_,_,run,by decide +kernel,by decide +kernel,(capture_coherent run).1⟩

/-- A second tap gets no reader: the capture has lost its own. -/
theorem failed_override_loses_reader :
    ¬∀ encoder defaultAudioProvider tasks s,Run Step (create encoder defaultAudioProvider) tasks s →
      Coherent s ∧ ∀ call answers,KeepsCapture s call answers := by
  intro hall
  have run := (@Run.refl _ _ Step (create none .null)).snoc (show Step _ (.recognize tap (answer true)) _ from rfl)
  have run := run.snoc (show Step _ (.recognize tap (answer false)) _ from rfl)
  have hreader := (hall _ _ _ _ run).1.reader.mpr (by decide +kernel)
  exact absurd hreader (by decide +kernel)

end AlexaClientSDK.CaptureCoherence
