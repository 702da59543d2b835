import AlexaClientSDK.CaptureCoherence

/-!
# Utterances do not interfere

Each recognition sends its own event once, a stop ends the capture it was accepted in, and a timer tells of its own
expectation. Contexts, stops and tasks of timers do not say which utterance they belong to: a context that comes late
lets a capture send a second event, a stop that waits survives an override, and the task of an expired timer may find
another expectation.
-/

namespace AlexaClientSDK.Utterances

open List LabelledRuns FocusChannel AudioInputProcessor Processor
open CaptureCoherence (Admits Opens Reaches executeRecognize_cases recognize_cases report_eq tap answer)

def carries : Event → Option ℕ
  | .recognize request => some request.audio.number
  | .expectSpeechTimedOut _ _ => none

section

variable (s : Processor)

/-- The payload and the reader of a request are of one recognition. -/
def Own (request : RecognizeRequest) : Prop :=
  s.recognitions[request.audio.number]?=some request.payload

/-- Utterances do not interfere. -/
structure Separate (s : Processor) : Prop where
  /-- It carries what an accepted recognition had. -/
  own : ∀ request,Event.recognize request∈s.events → Own s request
  once : (s.events.filterMap carries).Nodup
  stops : ∀ stop∈s.stops,stop.1=stop.2
  /-- A time-out is told for the expectation whose timer has expired. -/
  timers : ∀ timer expectation,Event.expectSpeechTimedOut timer expectation∈s.events → timer=expectation

/-- Answers when requested; timers expire and end in order. -/
def Possible : ProcessorTask → Prop
  | .contextAvailable _ _ | .contextFailure => s.contexts≠[]
  | .timerExpires => ∃ expectation,s.expectingSpeechTimer=.running expectation
  | .timerEnds => s.expectingSpeechTimer=.expired
  | .expectSpeechTimedOut => s.timerTasks≠[]
  | _ => True

/-- One task, or one step of the timer. -/
def Step (task : ProcessorTask) (t : Processor) : Prop := Possible s task ∧ t=s.perform task

theorem step_perform {s : Processor} (task : ProcessorTask) (h : Possible s task) : Step s task (s.perform task) :=
  ⟨h,rfl⟩

/-- No context after the event, no override while a stop waits, no expectation while an expired timer has a
task. -/
def Allowed : ProcessorTask → Prop
  | .contextAvailable _ _ => s.state=.RECOGNIZING → s.preparingToSend=true
  | .recognize call answers =>
    s.state=.RECOGNIZING → Reaches call answers → Admits s call.audioProvider → Opens s answers →
      s.deferredStopCapture=none
  | .expectSpeech info _ _ _ => info.isCancelled=false → s.state=.IDLE ∨ s.state=.BUSY → s.timerTasks=[]
  | _ => True

end

/-- What is known between two tasks. -/
structure Inv (s : Processor) : Prop extends Separate s where
  reader : ∀ reader,s.reader=some reader → reader.number+1=s.recognitions.length ∧
    ∃ payload,s.recognizePayload=some payload ∧ s.recognitions[reader.number]?=some payload
  pending : ∀ request,s.recognizeRequest=some request → Own s request ∧
    request.audio.number+1=s.recognitions.length ∧ s.preparingToSend=true
  /-- A capture whose request is prepared has not sent it. -/
  preparing : s.preparingToSend=true → s.state=.RECOGNIZING ∧
    ∀ n∈s.events.filterMap carries,n+1<s.recognitions.length
  deferred : ∀ stop,s.deferredStopCapture=some stop → stop.capture=s.recognitions.length ∧
    s.preparingToSend=true
  running : ∀ expectation,s.expectingSpeechTimer=.running expectation → s.state=.EXPECTING_SPEECH ∧
    expectation+1=s.expectations ∧ s.timerTasks=[]
  posted : ∀ timer∈s.timerTasks,timer+1=s.expectations

variable {s t : Processor}

/-- What the invariant is about. -/
def core (s : Processor) :=
  (s.reader,s.recognizePayload,s.recognizeRequest,s.state,s.preparingToSend,s.deferredStopCapture,
    s.expectingSpeechTimer,s.timerTasks,s.recognitions,s.expectations,s.events,s.stops)

theorem Inv.congr (h : Inv s) (hcore : core t=core s) : Inv t := by
  simp only [core,Prod.mk.injEq] at hcore
  obtain ⟨hreader,hpayload,hrequest,hstate,hpreparing,hdeferred,htimer,htasks,hrecognitions,hexpectations,
    hevents,hstops⟩ := hcore
  have hown : ∀ request,Own t request ↔ Own s request := by
    intro request
    unfold Own
    rw [hrecognitions]
  refine ⟨⟨?_,?_,?_,?_⟩,?_,?_,?_,?_,?_,?_⟩
  · rw [hevents]
    exact fun request hsent => (hown request).mpr (h.own request hsent)
  · rw [hevents]
    exact h.once
  · rw [hstops]
    exact h.stops
  · rw [hevents]
    exact h.timers
  · rw [hreader,hrecognitions,hpayload]
    exact h.reader
  · intro request hpending
    rw [hrequest] at hpending
    rw [hown,hrecognitions,hpreparing]
    exact h.pending request hpending
  · rw [hpreparing,hstate,hevents,hrecognitions]
    exact h.preparing
  · rw [hdeferred,hrecognitions,hpreparing]
    exact h.deferred
  · rw [htimer,hstate,hexpectations,htasks]
    exact h.running
  · rw [htasks,hexpectations]
    exact h.posted

theorem Inv.sent_lt (h : Inv s) {n : ℕ} (hn : n∈s.events.filterMap carries) : n<s.recognitions.length := by
  obtain ⟨event,hevent,hcarries⟩ := mem_filterMap.mp hn
  cases event with
  | expectSpeechTimedOut => cases hcarries
  | recognize request =>
    cases hcarries
    exact (List.getElem?_eq_some_iff.mp (h.own request hevent)).1

theorem Inv.deferred_none (h : Inv s) (hstate : s.state≠.RECOGNIZING) : s.deferredStopCapture=none := by
  cases hdeferred : s.deferredStopCapture with
  | none => rfl
  | some stop => exact (hstate (h.preparing (h.deferred stop hdeferred).2).1).elim

theorem getElem?_of_prefix {recognitions : List RecognizePayload} {payload other : RecognizePayload} {n : ℕ}
    (h : recognitions[n]?=some payload) : (recognitions++[other])[n]?=some payload := by
  rw [List.getElem?_append_left (List.getElem?_eq_some_iff.mp h).1]
  exact h

theorem inv_report (h : Inv s) (info : Option DirectiveInfo) (failure : Option String) :
    Inv (s.report info failure) := by
  obtain ⟨results,heq⟩ := report_eq s info failure
  rw [heq]
  exact h.congr rfl

theorem inv_executeResetState (h : Inv s) : Inv s.executeResetState := by
  refine ⟨⟨h.own,h.once,h.stops,h.timers⟩,?_,?_,?_,?_,?_,h.posted⟩
  · intro reader hreader
    cases hreader
  · intro request hrequest
    cases hrequest
  · intro hpreparing
    cases hpreparing
  · intro stop hstop
    cases hstop
  · intro expectation hrunning
    cases hrunning

theorem stopCapture_frame (s : Processor) (stop : StopCapture) :
    ∃ results nullDereferenced,s.stopCapture stop={s with
      reader := none
      state := .BUSY
      stops := s.stops++[(stop.capture,s.recognitions.length)]
      results := results
      nullDereferenced := nullDereferenced} := by
  unfold stopCapture
  split
  · obtain ⟨results,heq⟩ := report_eq {s with
      reader := none
      state := .BUSY
      stops := s.stops++[(stop.capture,s.recognitions.length)]
      nullDereferenced := true} stop.info none
    exact ⟨results,true,heq⟩
  · obtain ⟨results,heq⟩ := report_eq {s with
      reader := none
      state := .BUSY
      stops := s.stops++[(stop.capture,s.recognitions.length)]} stop.info none
    exact ⟨results,s.nullDereferenced,heq⟩

theorem inv_stopCapture (h : Inv {s with deferredStopCapture := none}) (hstate : s.state=.RECOGNIZING)
    (hsent : s.preparingToSend=false) {stop : StopCapture} (hcapture : stop.capture=s.recognitions.length) :
    Inv {s.stopCapture stop with deferredStopCapture := none} := by
  obtain ⟨results,nullDereferenced,heq⟩ := stopCapture_frame s stop
  rw [heq]
  refine ⟨⟨h.own,h.once,?_,h.timers⟩,?_,h.pending,?_,h.deferred,?_,h.posted⟩
  · intro pair hpair
    obtain hearlier|hnew := mem_append.mp hpair
    · exact h.stops pair hearlier
    · rw [mem_singleton.mp hnew]
      exact hcapture
  · exact nofun
  · intro hpreparing
    rw [show s.preparingToSend=true from hpreparing] at hsent
    cases hsent
  · intro expectation hrunning
    have hexpecting : s.state=.EXPECTING_SPEECH := (h.running expectation hrunning).1
    rw [hstate] at hexpecting
    cases hexpecting

section

variable (h : Inv s)
include h

/-- A capture is stopped at once, or when its request has been sent. -/
theorem inv_executeStopCapture (stopImmediately : Bool) (info : Option DirectiveInfo) :
    Inv (s.executeStopCapture stopImmediately info) := by
  unfold executeStopCapture
  split
  · exact h
  split
  · split
    · split
      · have hdone : Inv {s with localStopCapturePerformed := false} := h.congr rfl
        exact inv_report hdone info none
      · exact inv_report h info _
    · exact h
  next hstate =>
  rw [Decidable.not_not] at hstate
  dsimp only
  split
  · next hpreparing =>
    refine ⟨⟨h.own,h.once,h.stops,h.timers⟩,h.reader,h.pending,h.preparing,?_,h.running,h.posted⟩
    intro stop hstop
    cases hstop
    exact ⟨rfl,hpreparing⟩
  · next hpreparing =>
    have hsent : s.preparingToSend=false := by simpa using hpreparing
    have hnone : s.deferredStopCapture=none := by
      cases hdeferred : s.deferredStopCapture with
      | none => rfl
      | some stop => exact (hpreparing (h.deferred stop hdeferred).2).elim
    have hlocal : Inv {s with
        localStopCapturePerformed := s.localStopCapturePerformed || info.isNone
        deferredStopCapture := none} := by
      rw [←hnone]
      exact h.congr rfl
    have hstopped := @inv_stopCapture
      {s with localStopCapturePerformed := s.localStopCapturePerformed || info.isNone} hlocal hstate hsent
      ⟨stopImmediately,info,s.recognitions.length⟩ rfl
    refine hstopped.congr ?_
    obtain ⟨results,nullDereferenced,heq⟩ := stopCapture_frame
      {s with localStopCapturePerformed := s.localStopCapturePerformed || info.isNone}
      ⟨stopImmediately,info,s.recognitions.length⟩
    rw [heq]
    rw [hnone]

theorem inv_sent {request : RecognizeRequest} (hrequest : s.recognizeRequest=some request) :
    Inv {s with
      recognizeRequestSent := some request
      events := s.events++[Event.recognize request]
      recognizeRequest := none
      preparingToSend := false
      deferredStopCapture := none} := by
  obtain ⟨hown,hnewest,hpreparing⟩ := h.pending request hrequest
  obtain ⟨hstate,hearlier⟩ := h.preparing hpreparing
  refine ⟨⟨?_,?_,h.stops,?_⟩,h.reader,?_,?_,?_,h.running,h.posted⟩
  · intro other hsent
    obtain hother|hnew := List.mem_append.mp hsent
    · exact h.own other hother
    · cases List.mem_singleton.mp hnew
      exact hown
  · change ((s.events++[Event.recognize request]).filterMap carries).Nodup
    rw [List.filterMap_append]
    refine List.nodup_append.mpr ⟨h.once,List.pairwise_singleton _ _,?_⟩
    intro n hn m hm heq
    have hless := hearlier n hn
    rw [heq,show m=request.audio.number from List.mem_singleton.mp hm] at hless
    omega
  · intro timer expectation hsent
    obtain hother|hnew := List.mem_append.mp hsent
    · exact h.timers timer expectation hother
    · cases List.mem_singleton.mp hnew
  · intro other hother
    cases hother
  · intro hother
    cases hother
  · intro stop hstop
    cases hstop

/-- A request that waits is sent, and a stop that waited for it is carried out. -/
theorem inv_sendRequestNow : Inv s.sendRequestNow := by
  unfold sendRequestNow
  split
  · exact h
  · next request hrequest =>
    have hsent := inv_sent h hrequest
    have hstate := (h.preparing (h.pending request hrequest).2.2).1
    dsimp only
    split
    · next hnone =>
      refine hsent.congr ?_
      rw [show s.deferredStopCapture=none from hnone]
    · next stop hstop =>
      exact @inv_stopCapture
        {s with
          recognizeRequestSent := some request
          events := s.events++[Event.recognize request]
          recognizeRequest := none
          preparingToSend := false}
        hsent hstate rfl stop (h.deferred stop hstop).1

/-- A context comes for a capture that has not sent its request. -/
theorem inv_executeOnContextAvailable (hprepared : s.state=.RECOGNIZING → s.preparingToSend=true)
    (jsonContext : String) (acquiresChannel : Bool) : Inv (s.executeOnContextAvailable jsonContext acquiresChannel) := by
  unfold executeOnContextAvailable
  split
  · exact h
  next hstate =>
  rw [Decidable.not_not] at hstate
  split
  · exact inv_executeResetState h
  · exact inv_executeResetState h
  · next reader payload hreader hpayload =>
    obtain ⟨hnewest,other,hother,hown⟩ := h.reader reader hreader
    rw [hpayload] at hother
    cases hother
    split
    · exact inv_executeResetState h
    · have hbuilt : Inv (s.buildRequest payload reader jsonContext) := by
        obtain ⟨request,dialogRequestId,preCached,haudio,hrequest,heq⟩ : ∃ request dialogRequestId preCached,
            request.audio=reader ∧ request.payload=payload ∧ s.buildRequest payload reader jsonContext={s with
              dialogRequestId := dialogRequestId
              preCachedDialogRequestId := preCached
              recognizeRequest := some request
              KWDMetadataReader := none} := by
          unfold buildRequest
          split
          · exact ⟨_,_,_,rfl,rfl,rfl⟩
          · exact ⟨_,s.dialogRequestId,s.preCachedDialogRequestId,rfl,rfl,rfl⟩
        rw [heq]
        refine ⟨⟨h.own,h.once,h.stops,h.timers⟩,h.reader,?_,h.preparing,h.deferred,h.running,h.posted⟩
        intro waiting hwaiting
        cases hwaiting
        refine ⟨?_,?_,hprepared hstate⟩
        · change s.recognitions[request.audio.number]?=some request.payload
          rw [haudio,hrequest]
          exact hown
        · rw [haudio]
          exact hnewest
      dsimp only
      split
      · exact inv_sendRequestNow hbuilt
      · exact hbuilt

theorem inv_executeOnFocusChanged (newFocus : FocusState) : Inv (s.executeOnFocusChanged newFocus) := by
  have hfocus : Inv {s with focusState := newFocus} := h.congr rfl
  unfold executeOnFocusChanged
  dsimp only
  split
  · exact inv_executeResetState hfocus
  split
  · exact hfocus
  · exact inv_sendRequestNow hfocus

theorem inv_executeRecognize (provider : AudioProvider) (initiatorJson : Option InitiatorJson)
    (startOfSpeechTimestamp : ℤ) (begin : ℕ) (KWDMetadata : Option String) {answers : Answers}
    (hnone : Admits s provider → Opens s answers → s.deferredStopCapture=none) :
    Inv (s.executeRecognize provider initiatorJson startOfSpeechTimestamp begin KWDMetadata answers).1 := by
  obtain ⟨-,heq⟩|⟨-,-,reader,hreader,heq⟩|⟨hadmits,hopens,payload,reader,hnumber,heq⟩ :=
    executeRecognize_cases s provider initiatorJson startOfSpeechTimestamp begin KWDMetadata answers
  · rw [heq]
    exact h
  · rw [heq]
    refine ⟨⟨h.own,h.once,h.stops,h.timers⟩,?_,h.pending,h.preparing,h.deferred,h.running,h.posted⟩
    intro other hother
    obtain hgone|⟨-,hsame⟩ := hreader
    · rw [show reader=some other from hother] at hgone
      cases hgone
    · rw [show reader=some other from hother] at hsame
      exact h.reader other hsame.symm
  · have hdeferred := hnone hadmits hopens
    rw [heq]
    refine ⟨⟨?_,h.once,h.stops,h.timers⟩,?_,?_,?_,?_,?_,h.posted⟩
    · intro request hsent
      exact getElem?_of_prefix (h.own request hsent)
    · intro other hother
      cases hother
      refine ⟨?_,payload,rfl,?_⟩
      · change reader.number+1=(s.recognitions++[payload]).length
        rw [hnumber,List.length_append,List.length_singleton]
      · change (s.recognitions++[payload])[reader.number]?=some payload
        rw [hnumber,List.getElem?_concat_length]
    · intro request hrequest
      cases hrequest
    · refine fun _ => ⟨rfl,?_⟩
      intro n hn
      change n+1<(s.recognitions++[payload]).length
      rw [List.length_append,List.length_singleton]
      exact Nat.succ_lt_succ (h.sent_lt hn)
    · intro stop hstop
      rw [show s.deferredStopCapture=some stop from hstop] at hdeferred
      cases hdeferred
    · intro expectation hrunning
      cases hrunning

theorem inv_recognize {call : RecognizeCall} {answers : Answers}
    (hallowed : Allowed s (.recognize call answers)) : Inv (s.recognize call answers).1 := by
  obtain ⟨-,heq⟩|⟨hreaches,initiatorJson,begin,heq⟩ := recognize_cases s call answers
  · rw [heq]
    exact h
  · rw [heq]
    refine inv_executeRecognize h _ _ _ _ _ ?_
    intro hadmits hopens
    by_cases hstate : s.state=.RECOGNIZING
    · exact hallowed hstate hreaches hadmits hopens
    · exact h.deferred_none hstate

theorem inv_executeExpectSpeech {info : DirectiveInfo} (initiator : Option String) (now : ℤ) (answers : Answers)
    (hallowed : info.isCancelled=false → s.state=.IDLE ∨ s.state=.BUSY → s.timerTasks=[]) :
    Inv (s.executeExpectSpeech info initiator now answers) := by
  unfold executeExpectSpeech
  split
  · exact h
  next hcancelled =>
  split
  · exact inv_report h _ _
  next hstate =>
  have hfree : s.state=.IDLE ∨ s.state=.BUSY := by
    by_contra hother
    exact hstate (not_or.mp hother)
  have hempty := hallowed (by simpa using hcancelled) hfree
  dsimp only
  obtain ⟨timer,htimer,hstarted⟩ :=
    startTimer_cases {s with precedingExpectSpeechInitiator := some (initiator.getD "")}
  have hrunning : ∀ expectation,timer=.running expectation → expectation=s.expectations := by
    rintro expectation rfl
    obtain hnew|hold := hstarted
    · cases hnew
      rfl
    · rw [(h.running expectation hold.symm).1] at hfree
      exact absurd hfree (by decide)
  rw [htimer]
  obtain ⟨results,hresults⟩ := report_eq
    {s with
      precedingExpectSpeechInitiator := some (initiator.getD "")
      expectingSpeechTimer := timer
      state := .EXPECTING_SPEECH
      expectations := s.expectations+1} (some info) none
  rw [hresults]
  have hexpects : Inv {s with
      precedingExpectSpeechInitiator := some (initiator.getD "")
      expectingSpeechTimer := timer
      state := .EXPECTING_SPEECH
      expectations := s.expectations+1
      results := results} := by
    refine ⟨⟨h.own,h.once,h.stops,h.timers⟩,h.reader,h.pending,?_,h.deferred,?_,?_⟩
    · intro hpreparing
      rw [(h.preparing hpreparing).1] at hfree
      exact absurd hfree (by decide)
    · intro expectation hexpectation
      refine ⟨rfl,?_,hempty⟩
      rw [hrunning expectation hexpectation]
    · intro posted hposted
      rw [show s.timerTasks=[] from hempty] at hposted
      cases hposted
  split
  · exact inv_executeRecognize hexpects _ _ _ _ _ fun _ _ => hexpects.deferred_none nofun
  split
  · exact inv_executeRecognize hexpects _ _ _ _ _ fun _ _ => hexpects.deferred_none nofun
  · exact hexpects

theorem inv_executeExpectSpeechTimedOut {timer : ℕ} {rest : List ℕ} (htasks : s.timerTasks=timer::rest) :
    Inv ({s with timerTasks := rest}.executeExpectSpeechTimedOut timer) := by
  have hnewest := h.posted timer (by rw [htasks]; exact mem_cons_self)
  have hidle : ∀ expectation,s.expectingSpeechTimer≠.running expectation := by
    intro expectation hrunning
    have hempty := (h.running expectation hrunning).2.2
    rw [htasks] at hempty
    cases hempty
  have hrest : ∀ posted∈rest,posted+1=s.expectations := by
    intro posted hposted
    refine h.posted posted ?_
    rw [htasks]
    exact mem_cons_of_mem timer hposted
  unfold executeExpectSpeechTimedOut
  split
  · refine ⟨⟨h.own,h.once,h.stops,h.timers⟩,h.reader,h.pending,h.preparing,h.deferred,?_,hrest⟩
    exact fun expectation hrunning => (hidle expectation hrunning).elim
  · next hstate =>
    have hexpecting : s.state=.EXPECTING_SPEECH := Decidable.not_not.mp hstate
    refine ⟨⟨?_,?_,h.stops,?_⟩,h.reader,h.pending,?_,h.deferred,?_,hrest⟩
    · intro request hsent
      obtain hearlier|hnew := mem_append.mp hsent
      · exact h.own request hearlier
      · cases mem_singleton.mp hnew
    · change ((s.events++[Event.expectSpeechTimedOut timer (s.expectations-1)]).filterMap carries).Nodup
      rw [filterMap_append]
      exact (append_nil (s.events.filterMap carries)).symm ▸ h.once
    · intro other expectation hsent
      obtain hearlier|hnew := mem_append.mp hsent
      · exact h.timers other expectation hearlier
      · cases mem_singleton.mp hnew
        change timer=s.expectations-1
        omega
    · intro hpreparing
      have hstate := (h.preparing hpreparing).1
      rw [hexpecting] at hstate
      cases hstate
    · exact fun expectation hrunning => (hidle expectation hrunning).elim

theorem inv_perform {task : ProcessorTask} (hpossible : Possible s task) (hallowed : Allowed s task) :
    Inv (s.perform task) := by
  cases task with
  | recognize => exact inv_recognize h hallowed
  | stopCapture => exact inv_executeStopCapture h false none
  | stopCaptureDirective info => exact inv_executeStopCapture h true (some info)
  | resetState => exact inv_executeResetState h
  | contextAvailable jsonContext acquiresChannel =>
    have htaken : Inv {s with contexts := s.contexts.tail} := h.congr rfl
    exact inv_executeOnContextAvailable htaken hallowed jsonContext acquiresChannel
  | contextFailure =>
    have htaken : Inv {s with contexts := s.contexts.tail} := h.congr rfl
    exact inv_executeResetState htaken
  | focusChanged newFocus => exact inv_executeOnFocusChanged h newFocus
  | dialogUXStateChanged newState =>
    change Inv (s.executeOnDialogUXStateChanged newState)
    unfold executeOnDialogUXStateChanged
    split
    · exact h.congr rfl
    split
    · exact h
    · exact inv_executeResetState h
  | expectSpeech info initiator now answers => exact inv_executeExpectSpeech h initiator now answers hallowed
  | timerExpires =>
    obtain ⟨expectation,hrunning⟩ := hpossible
    obtain ⟨-,hnewest,hempty⟩ := h.running expectation hrunning
    unfold perform
    rw [hrunning]
    refine ⟨⟨h.own,h.once,h.stops,h.timers⟩,h.reader,h.pending,h.preparing,h.deferred,?_,?_⟩
    · exact nofun
    · intro timer htimer
      rw [hempty] at htimer
      rw [mem_singleton.mp htimer]
      exact hnewest
  | timerEnds =>
    have hended : s.perform .timerEnds={s with expectingSpeechTimer := .off} := if_pos hpossible
    rw [hended]
    refine ⟨⟨h.own,h.once,h.stops,h.timers⟩,h.reader,h.pending,h.preparing,h.deferred,?_,h.posted⟩
    exact nofun
  | expectSpeechTimedOut =>
    cases htasks : s.timerTasks with
    | nil => exact (hpossible htasks).elim
    | cons =>
      unfold perform
      rw [htasks]
      exact inv_executeExpectSpeechTimedOut h htasks
  | sendCompleted success =>
    cases success with
    | true => exact inv_executeStopCapture h false none
    | false => exact inv_executeResetState h
  | disconnected =>
    change Inv s.executeDisconnected
    unfold executeDisconnected
    split
    · exact inv_executeResetState h
    · exact h

end

/-- Over every run in which no context comes for a capture whose event was sent, none is overridden while a stop
waits, and no speech is expected while the task of an expired timer waits, utterances do not interfere. -/
theorem utterances_separate {encoder : Option (Option String)} {defaultAudioProvider : AudioProvider}
    {tasks : List ProcessorTask} (run : Run (Guarded Step Allowed) (create encoder defaultAudioProvider) tasks s) :
    Separate s := by
  have hinv : Inv s := by
    refine run.invariant Inv ?_ ?_
    · refine ⟨⟨?_,List.nodup_nil,?_,?_⟩,?_,?_,?_,?_,?_,?_⟩
      · intro request hsent
        cases hsent
      · intro stop hstop
        cases hstop
      · intro timer expectation hsent
        cases hsent
      · intro reader hreader
        cases hreader
      · intro request hrequest
        cases hrequest
      · intro hpreparing
        cases hpreparing
      · intro stop hstop
        cases hstop
      · intro expectation hrunning
        cases hrunning
      · intro timer htimer
        cases htimer
    · rintro s task _ hs ⟨hallowed,hpossible,rfl⟩
      exact inv_perform hs hpossible hallowed
  exact hinv.toSeparate

/-- It overrides a capture without context, and sends its event. -/
theorem utterances_separate_override :
    ∃ tasks s,Run (Guarded Step Allowed) (create none .null) tasks s ∧ s.recognitions.length=2 ∧
      s.events.filterMap carries=[1] ∧ Separate s := by
  have run := (@Run.refl _ _ (Guarded Step Allowed) (create none .null)).allow
    (step_perform (.recognize tap (answer true)) trivial) nofun
  have run := run.allow (step_perform (.recognize tap (answer true)) trivial) (fun _ _ _ _ => by decide +kernel)
  have run := run.allow (step_perform (.contextAvailable "context" true) (by change Processor.contexts _≠[]; decide +kernel))
    (fun _ => by decide +kernel)
  have run := run.allow (step_perform (.focusChanged .foreground) trivial) trivial
  exact ⟨_,_,run,by decide +kernel,by decide +kernel,utterances_separate run⟩

/-- A late context goes to the second, which then has two events. -/
theorem late_context_sends_twice :
    ¬∀ encoder defaultAudioProvider tasks s,Run Step (create encoder defaultAudioProvider) tasks s → Separate s := by
  intro hall
  have run := (@Run.refl _ _ Step (create none .null)).snoc (step_perform (.recognize tap (answer true)) trivial)
  have run := run.snoc (step_perform .resetState trivial)
  have run := run.snoc (step_perform (.recognize tap (answer true)) trivial)
  have run := run.snoc (step_perform (.contextAvailable "first" true) (by change Processor.contexts _≠[]; decide +kernel))
  have run := run.snoc (step_perform (.focusChanged .foreground) trivial)
  have run := run.snoc (step_perform (.contextAvailable "second" true) (by change Processor.contexts _≠[]; decide +kernel))
  exact absurd (hall _ _ _ _ run).once (by decide +kernel)

end AlexaClientSDK.Utterances
