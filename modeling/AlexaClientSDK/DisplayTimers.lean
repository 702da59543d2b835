import AlexaClientSDK.DisplayCards

/-!
# The timer of a display card

The timer that clears a card is started for the card on show, and events that keep the card stop it. Stopping it does
not take back the task that it has posted when it expired, which clears whatever is on show. And a timer that is on is
not started again. A run keeps which timers have had their card replaced or were stopped, and which time-out was
requested last.
-/

namespace AlexaClientSDK.DisplayTimers

open Nat Option List LabelledRuns FocusChannel TemplateRuntime Runtime DisplayCards
open AudioPlayer (PlayerActivity)

variable {ρ : Type}

/-- What `m_clearDisplayTimer` is asked. -/
inductive TimerCall
  | start (timeout : Timeout)
  | stop
deriving DecidableEq

/-- A timer that is on is not started, and the next one is numbered. -/
def applyCall (timer : ClearTimer × ℕ) : TimerCall → ClearTimer × ℕ
  | .start timeout => if timer.1=.off then (.running timer.2 timeout,timer.2+1) else timer
  | .stop => (.off,timer.2)

def rendered : Call → Option Directive
  | .renderTemplateCard directive _ => some directive
  | .renderPlayerInfoCard directive _ _ => some directive
  | .clearTemplateCard | .clearPlayerInfoCard => none

/-- The cards shown so far, oldest first. -/
def shown (calls : List Call) : List Directive := calls.filterMap rendered

inductive DisplayTask (ρ : Type)
  | own (task : RuntimeTask ρ)
  | focusChanged (newFocus : FocusState) (accepted : Bool)

section

variable (s : Runtime ρ)

/-- What `executeDisplayCard` shows. -/
def cardToShow : Option Directive :=
  match s.lastDisplayedDirective with
  | none => none
  | some directive =>
    match directive.name with
    | .renderTemplate => some directive
    | .renderPlayerInfo =>
      s.activeRenderPlayerInfoCardsProvider.bind fun provider => (s.audioItemsInExecution provider).directive

/-- A template card is shown without a timer. -/
def callsToShow : List TimerCall :=
  match s.lastDisplayedDirective with
  | none => []
  | some directive =>
    match directive.name with
    | .renderTemplate => [.stop]
    | .renderPlayerInfo => []

/-- A timer is asked for while a card is on show. -/
def callsToStart (timeout : Timeout) : List TimerCall :=
  if s.state=.displaying then [.start timeout] else []

def callsOfPlayer : PlayerActivity → List TimerCall
  | .playing => [.stop]
  | .paused | .stopped => callsToStart s .audioPlaybackStoppedPaused
  | .finished => callsToStart s .audioPlaybackFinished
  | .idle | .bufferUnderrun => []

end

/-- The timer calls and the cards shown from one state to another. -/
structure Effect (s t : Runtime ρ) (calls : List TimerCall) (cards : List Directive) : Prop where
  timer : (t.clearDisplayTimer,t.timers)=calls.foldl applyCall (s.clearDisplayTimer,s.timers)
  tasks : t.timerTasks=s.timerTasks
  cards : shown t.calls=shown s.calls++cards

variable {s t u : Runtime ρ}

theorem Effect.none (hclear : t.clearDisplayTimer=s.clearDisplayTimer) (htimers : t.timers=s.timers)
    (htasks : t.timerTasks=s.timerTasks) (hcalls : t.calls=s.calls) : Effect s t [] [] where
  timer := by rw [hclear,htimers,foldl_nil]
  tasks := htasks
  cards := by rw [hcalls,append_nil]

variable {calls : List TimerCall} {cards : List Directive}

theorem Effect.trans {calls' : List TimerCall} {cards' : List Directive} (h : Effect s t calls cards)
    (h' : Effect t u calls' cards') : Effect s u (calls++calls') (cards++cards') where
  timer := by rw [h'.timer,h.timer,foldl_append]
  tasks := h'.tasks.trans h.tasks
  cards := by rw [h'.cards,h.cards,append_assoc]

section

variable (s)

theorem effect_clear {call : Call} (hcall : rendered call=none) : Effect s (s.tell call) [] [] where
  timer := rfl
  tasks := rfl
  cards := by
    change shown (s.calls++[call])=_
    unfold shown
    rw [filterMap_append,filterMap_cons_none hcall,filterMap_nil]

theorem effect_show {call : Call} {card : Directive} (hcall : rendered call=some card) :
    Effect s (s.tell call) [] [card] where
  timer := rfl
  tasks := rfl
  cards := by
    change shown (s.calls++[call])=_
    unfold shown
    rw [filterMap_append,filterMap_cons_some hcall,filterMap_nil]

theorem effect_executeStartTimer (timeout : Timeout) :
    Effect s (s.executeStartTimer timeout) (callsToStart s timeout) [] := by
  unfold executeStartTimer callsToStart
  by_cases hstate : s.state=.displaying
  · rw [if_pos hstate]
    by_cases hoff : s.clearDisplayTimer=.off
    · rw [if_pos ⟨hstate,hoff⟩]
      refine ⟨?_,rfl,(append_nil _).symm⟩
      exact (if_pos hoff).symm
    · rw [if_neg (fun hboth => hoff hboth.2)]
      refine ⟨?_,rfl,(append_nil _).symm⟩
      exact (if_neg hoff).symm
  · rw [if_neg hstate,if_neg (fun hboth => hstate hboth.1)]
    exact .none rfl rfl rfl rfl

theorem effect_executeStopTimer : Effect s s.executeStopTimer [.stop] [] :=
  ⟨rfl,rfl,(append_nil _).symm⟩

theorem effect_executeAudioPlayerStartTimer (state : PlayerActivity) :
    Effect s (s.executeAudioPlayerStartTimer state) (callsOfPlayer s state) [] := by
  cases state with
  | playing => exact effect_executeStopTimer s
  | paused | stopped | finished => exact effect_executeStartTimer s _
  | idle | bufferUnderrun => exact .none rfl rfl rfl rfl

theorem effect_executeDisplayCard : Effect s s.executeDisplayCard (callsToShow s) (cardToShow s).toList := by
  unfold executeDisplayCard callsToShow cardToShow
  cases s.lastDisplayedDirective with
  | none => exact .none rfl rfl rfl rfl
  | some directive =>
    dsimp only
    cases directive.name with
    | renderTemplate => exact (effect_executeStopTimer s).trans (effect_show _ rfl)
    | renderPlayerInfo =>
      unfold executeRenderPlayerInfoCallbacks
      rw [if_neg Bool.false_ne_true]
      cases s.activeRenderPlayerInfoCardsProvider with
      | none => exact .none rfl rfl rfl rfl
      | some provider =>
        dsimp only [bind_some]
        cases (s.audioItemsInExecution provider).directive with
        | none => exact .none rfl rfl rfl rfl
        | some => exact effect_show s rfl

theorem effect_executeClearCard : Effect s s.executeClearCard [] [] := by
  unfold executeClearCard executeRenderTemplateCallbacks executeRenderPlayerInfoCallbacks
  split
  · exact .none rfl rfl rfl rfl
  · split
    · exact effect_clear s rfl
    · exact effect_clear s rfl

theorem effect_executeTimerEvent : Effect s s.executeTimerEvent [] [] := by
  have hclear := effect_executeClearCard s
  unfold executeTimerEvent
  split
  · exact ⟨hclear.timer,hclear.tasks,hclear.cards⟩
  all_goals exact .none rfl rfl rfl rfl

end

section

variable (s)

/-- A card that arrives is shown at once if a card is on show. -/
def cardArriving (info : Directive) : Option Directive :=
  if s.state=.displaying then cardToShow {s with lastDisplayedDirective := some info} else none

/-- Then a template card stops the timer. -/
def callsArriving (info : Directive) : List TimerCall :=
  if s.state=.displaying ∧ info.name=.renderTemplate then [.stop] else []

theorem effect_executeDisplayCardEvent (info : Directive) (accepted : Bool) :
    Effect s (s.executeDisplayCardEvent info accepted) (callsArriving s info) (cardArriving s info).toList := by
  unfold callsArriving cardArriving
  by_cases hstate : s.state=.displaying
  · have hshow := effect_executeDisplayCard {s with lastDisplayedDirective := some info}
    have hcalls : callsToShow {s with lastDisplayedDirective := some info} =
        if s.state=.displaying ∧ info.name=.renderTemplate then [.stop] else [] := by
      unfold callsToShow
      dsimp only
      cases hname : info.name with
      | renderTemplate => rw [if_pos ⟨hstate,rfl⟩]
      | renderPlayerInfo => rw [if_neg (fun hboth => CardName.noConfusion hboth.2)]
    have hevent : s.executeDisplayCardEvent info accepted =
        executeDisplayCard {s with lastDisplayedDirective := some info} := by
      unfold executeDisplayCardEvent
      dsimp only
      split
      all_goals next hother => first | rfl | exact absurd (hother.symm.trans hstate) (by decide)
    rw [hevent,if_pos hstate,←hcalls]
    exact ⟨hshow.timer,hshow.tasks,hshow.cards⟩
  · rw [if_neg (fun hboth => hstate hboth.1),if_neg hstate]
    unfold executeDisplayCardEvent acquireChannel
    dsimp only
    split
    · split <;> exact .none rfl rfl rfl rfl
    · exact .none rfl rfl rfl rfl
    · next hshows => exact (hstate hshows).elim
    · exact .none rfl rfl rfl rfl
    · exact .none rfl rfl rfl rfl

/-- A focus that comes shows the newest card, unless no card is expected. -/
def Expects : Prop := s.state=.acquiring ∨ s.state=.displaying

end

instance (s : Runtime ρ) : Decidable (Expects s) := inferInstanceAs (Decidable (_ ∨ _))

section

variable (s)

theorem effect_onFocusGained :
    Effect s s.onFocusGained (if Expects s then callsToShow s else []) (if Expects s then cardToShow s else none).toList := by
  have hshow := effect_executeDisplayCard s
  by_cases hexpects : Expects s
  · rw [if_pos hexpects,if_pos hexpects]
    unfold onFocusGained
    obtain hstate|hstate := hexpects
    · rw [hstate]
      exact ⟨hshow.timer,hshow.tasks,hshow.cards⟩
    · rw [hstate]
      exact hshow
  · rw [if_neg hexpects,if_neg hexpects]
    unfold onFocusGained
    split
    · exact .none rfl rfl rfl rfl
    · exact .none rfl rfl rfl rfl
    · exact .none rfl rfl rfl rfl
    · next hstate => exact (hexpects (.inl hstate)).elim
    · next hstate => exact (hexpects (.inr hstate)).elim

theorem effect_onFocusLost (accepted : Bool) : Effect s (s.onFocusLost accepted) [] [] := by
  have hclear := effect_executeClearCard s
  unfold onFocusLost acquireChannel
  split
  · exact .none rfl rfl rfl rfl
  · exact .none rfl rfl rfl rfl
  · exact .none rfl rfl rfl rfl
  · exact ⟨hclear.timer,hclear.tasks,hclear.cards⟩
  · split <;> exact .none rfl rfl rfl rfl

/-- What the state of the dialog asks of the timer of a template card. -/
def callsOfDialog (newState : DialogUXState) : List TimerCall :=
  match s.state,s.lastDisplayedDirective with
  | .displaying,some directive =>
    match directive.name,newState with
    | .renderTemplate,.idle => [.start .ttsFinished]
    | .renderTemplate,.expecting | .renderTemplate,.speaking => [.stop]
    | _,_ => []
  | _,_ => []

/-- What an update asks of the timer, with the card of its audio item. -/
def callsOfUpdate (state : PlayerActivity) (isStateUpdated : Bool) : Option Directive → List TimerCall
  | some card => (if isStateUpdated then callsOfPlayer s state else [])++callsArriving s card
  | none => []

def timerCalls : DisplayTask ρ → List TimerCall
  | .own (.renderTemplate payload _) => callsArriving s (s.nextDirective .renderTemplate payload)
  | .own (.renderPlayerInfo _ (.audioItem _) (some _) _ _) => [.stop]
  | .own (.audioPlayerUpdate state (some provider) audioItemId _ _) =>
    if Heeds s state provider audioItemId then
      callsOfUpdate s state (decide ((s.audioPlayerInfo provider).audioPlayerState≠state))
        (cardOf s provider audioItemId)
    else []
  | .own (.dialogUXStateChanged newState) => callsOfDialog s newState
  | .own (.acquired _) | .focusChanged .foreground _ | .focusChanged .background _ =>
    if Expects s then callsToShow s else []
  | _ => []

end

variable {task : DisplayTask ρ}

def OfTimer : DisplayTask ρ → Prop
  | .own .timerExpires | .own .timerEnds | .own .timerEvent => True
  | _ => False

theorem start_not_mem_stop (timeout : Timeout) : TimerCall.start timeout∉[TimerCall.stop] := by
  cases timeout <;> decide

theorem callsArriving_eq (s : Runtime ρ) (info : Directive) : callsArriving s info=[] ∨ callsArriving s info=[.stop] := by
  unfold callsArriving
  split
  · exact .inr rfl
  · exact .inl rfl

theorem start_not_mem_callsToShow (s : Runtime ρ) (timeout : Timeout) : .start timeout∉callsToShow s := by
  unfold callsToShow
  split
  · exact not_mem_nil
  · split
    · exact start_not_mem_stop timeout
    · exact not_mem_nil

variable {timeout : Timeout} {state : PlayerActivity}

theorem callsOfPlayer_start (h : .start timeout∈callsOfPlayer s state) : callsOfPlayer s state=[.start timeout] := by
  have hstart : ∀ other,.start timeout∈callsToStart s other → callsToStart s other=[.start timeout] := by
    intro other hmem
    unfold callsToStart at hmem ⊢
    split at hmem
    · next hstate =>
      rw [if_pos hstate,←mem_singleton.mp hmem]
    · cases hmem
  cases state with
  | idle | bufferUnderrun => cases h
  | playing => exact (start_not_mem_stop timeout h).elim
  | paused | stopped | finished => exact hstart _ h

/-- A task asks for a start at most once, and for a stop after it at most. -/
theorem timerCalls_start (h : .start timeout∈timerCalls s task) :
    timerCalls s task=[.start timeout] ∨ timerCalls s task=[.start timeout,.stop] := by
  have harriving : ∀ info,.start timeout∉callsArriving s info := by
    intro info hmem
    obtain hnone|hstop := callsArriving_eq s info
    · rw [hnone] at hmem
      cases hmem
    · rw [hstop] at hmem
      exact start_not_mem_stop timeout hmem
  have hshow : .start timeout∉if Expects s then callsToShow s else [] := by
    split
    · exact start_not_mem_callsToShow s timeout
    · exact not_mem_nil
  unfold timerCalls at h ⊢
  split at h
  · exact (harriving _ h).elim
  · exact (start_not_mem_stop timeout h).elim
  · split at h
    · next hheeds =>
      rw [if_pos hheeds]
      unfold callsOfUpdate at h ⊢
      split at h
      · next card hcard =>
        rw [mem_append] at h
        have hplayer := h.resolve_right (harriving card)
        split at hplayer
        · next hupdated =>
          rw [if_pos hupdated,callsOfPlayer_start hplayer]
          obtain hnone|hstop := callsArriving_eq s card
          · rw [hnone]
            exact .inl rfl
          · rw [hstop]
            exact .inr rfl
        · cases hplayer
      · cases h
    · cases h
  · unfold callsOfDialog at h ⊢
    split at h
    · split at h
      · exact .inl (by rw [mem_singleton.mp h])
      · exact (start_not_mem_stop timeout h).elim
      · exact (start_not_mem_stop timeout h).elim
      · cases h
    · cases h
  · exact (hshow h).elim
  · exact (hshow h).elim
  · exact (hshow h).elim
  · cases h

theorem executeAudioPlayerStartTimer_eq (s : Runtime ρ) (state : PlayerActivity) :
    ∃ timer timers,s.executeAudioPlayerStartTimer state={s with clearDisplayTimer := timer,timers := timers} := by
  have hstart : ∀ timeout,∃ timer timers,
      s.executeStartTimer timeout={s with clearDisplayTimer := timer,timers := timers} := by
    intro timeout
    unfold executeStartTimer
    split
    · exact ⟨_,_,rfl⟩
    · exact ⟨s.clearDisplayTimer,s.timers,rfl⟩
  cases state with
  | idle | bufferUnderrun => exact ⟨s.clearDisplayTimer,s.timers,rfl⟩
  | playing => exact ⟨.off,s.timers,rfl⟩
  | paused | stopped | finished => exact hstart _

theorem callsOfUpdate_eq (hstate : t.state=s.state) (state : PlayerActivity) (isStateUpdated : Bool)
    (card : Option Directive) : callsOfUpdate t state isStateUpdated card=callsOfUpdate s state isStateUpdated card := by
  unfold callsOfUpdate callsArriving callsOfPlayer callsToStart
  rw [hstate]

section

variable (s)

theorem effect_displayPlayerInfo (provider : ρ)
    (isStateUpdated accepted : Bool) (hheeds : s.isRenderTemplateLastReceived=true → state=.playing) :
    Effect s (s.displayPlayerInfo state provider isStateUpdated accepted)
      (callsOfUpdate s state isStateUpdated (s.audioItemsInExecution provider).directive)
      ((s.audioItemsInExecution provider).directive.bind (cardArriving s)).toList := by
  unfold displayPlayerInfo
  rw [if_neg (by simpa using hheeds)]
  dsimp only
  cases (s.audioItemsInExecution provider).directive with
  | none =>
    dsimp only
    split <;> exact .none rfl rfl rfl rfl
  | some card =>
    have hnoted : Effect s {s with isRenderTemplateLastReceived := false} [] [] := .none rfl rfl rfl rfl
    cases isStateUpdated with
    | false =>
      exact hnoted.trans (effect_executeDisplayCardEvent {s with isRenderTemplateLastReceived := false} card accepted)
    | true =>
      have hstart := effect_executeAudioPlayerStartTimer {s with isRenderTemplateLastReceived := false} state
      obtain ⟨timer,timers,heq⟩ :=
        executeAudioPlayerStartTimer_eq {s with isRenderTemplateLastReceived := false} state
      rw [heq] at hstart ⊢
      exact (hnoted.trans hstart).trans (effect_executeDisplayCardEvent _ card accepted)

theorem effect_executeOnDialogUXStateChanged (newState : DialogUXState) :
    Effect s (s.executeOnDialogUXStateChanged newState) (callsOfDialog s newState) [] := by
  unfold executeOnDialogUXStateChanged callsOfDialog
  cases hstate : s.state with
  | displaying =>
    cases s.lastDisplayedDirective with
    | none => exact .none rfl rfl rfl rfl
    | some directive =>
      dsimp only
      cases directive.name with
      | renderPlayerInfo => exact .none rfl rfl rfl rfl
      | renderTemplate =>
        cases newState with
        | idle =>
          have hstart := effect_executeStartTimer s .ttsFinished
          unfold callsToStart at hstart
          rw [if_pos hstate] at hstart
          exact hstart
        | expecting | speaking => exact effect_executeStopTimer s
        | listening | thinking | finished => exact .none rfl rfl rfl rfl
  | _ => exact .none rfl rfl rfl rfl

/-- What can happen: any change of the focus, too. -/
def Happens : DisplayTask ρ → Prop
  | .own task => Possible s task
  | .focusChanged _ _ => True

/-- What is known of the past of a run. -/
structure History where
  /-- Another card was shown since, or a task stopped the timer. -/
  void : ℕ → Bool
  /-- The card on show when the timer was started. -/
  card : ℕ → Option Directive
  /-- Of the card on show, with the number of its timer, if not over. -/
  requested : Option (ℕ × Timeout)

structure Display (ρ : Type) where
  runtime : Runtime ρ
  history : History

def onShow : Option Directive := (shown s.calls).getLast?

end

/-- The cards shown from one state to another. -/
def newCards (s t : Runtime ρ) : List Directive := (shown t.calls).drop (shown s.calls).length

/-- The time-out in demand after a task. -/
def request (h : History) (s : Runtime ρ) (task : DisplayTask ρ) (t : Runtime ρ) : Option (ℕ × Timeout) :=
  match task,(timerCalls s task).getLast? with
  | .own .timerExpires,_ => none
  | _,some (.start timeout) => some (s.timers,timeout)
  | _,some .stop => none
  | _,none => if ∃ card∈newCards s t,onShow s≠some card then none else h.requested

def record (h : History) (s : Runtime ρ) (task : DisplayTask ρ) (t : Runtime ρ) : History where
  void k := h.void k || decide (k<s.timers ∧ (.stop∈timerCalls s task ∨ ∃ card∈newCards s t,h.card k≠some card))
  card k := if k<s.timers then h.card k else onShow t
  requested := request h s task t

variable {demand : ℕ × Timeout}

theorem request_quiet {h : History}
    (hlast : (timerCalls s task).getLast?=none) (hrequest : request h s task t=some demand) :
    h.requested=some demand := by
  unfold request at hrequest
  split at hrequest
  · cases hrequest
  · next hcall =>
    rw [hlast] at hcall
    cases hcall
  · cases hrequest
  · split at hrequest
    · cases hrequest
    · exact hrequest

theorem request_stopped (h : History) (hlast : (timerCalls s task).getLast?=some .stop) : request h s task t=none := by
  unfold request
  split
  · rfl
  · next hcall =>
    rw [hlast] at hcall
    cases hcall
  · rfl
  · next hcall =>
    rw [hlast] at hcall
    cases hcall

theorem request_started {h : History}
    (hlast : (timerCalls s task).getLast?=some (.start timeout)) (hrequest : request h s task t=some demand) :
    demand=(s.timers,timeout) := by
  unfold request at hrequest
  split at hrequest
  · cases hrequest
  · next hcall =>
    rw [hlast] at hcall
    cases hcall
    exact (some.inj hrequest).symm
  · next hcall => cases hrequest
  · next hcall =>
    rw [hlast] at hcall
    cases hcall

theorem Effect.newCards_eq (h : Effect s t calls cards) : newCards s t=cards := by
  unfold newCards
  rw [h.cards,drop_left]

theorem Effect.onShow_eq {card : Option Directive} (h : Effect s t calls card.toList)
    (hsame : ∀ other,card=some other → onShow s=some other) : onShow t=onShow s := by
  unfold onShow at hsame ⊢
  rw [h.cards]
  cases card with
  | none => rw [toList_none,append_nil]
  | some other => rw [toList_some,List.getLast?_concat,hsame other rfl]

theorem timers_le_foldl (calls : List TimerCall) (timer : ClearTimer × ℕ) :
    timer.2≤(calls.foldl applyCall timer).2 := by
  induction calls generalizing timer with
  | nil => exact le_refl _
  | cons call calls ih =>
    have hone : timer.2≤(applyCall timer call).2 := by
      cases call with
      | stop => exact le_refl _
      | start timeout =>
        change timer.2≤(if timer.1=.off then (ClearTimer.running timer.2 timeout,timer.2+1) else timer).2
        split
        · exact le_succ timer.2
        · exact le_refl _
    rw [foldl_cons]
    exact le_trans hone (ih (applyCall timer call))

theorem Effect.timers_le (h : Effect s t calls cards) : s.timers≤t.timers := by
  have htimer := timers_le_foldl calls (s.clearDisplayTimer,s.timers)
  rw [←h.timer] at htimer
  exact htimer

variable [DecidableEq ρ]

section

variable (s)

def cardShown : DisplayTask ρ → Option Directive
  | .own (.renderTemplate payload _) => cardArriving s (s.nextDirective .renderTemplate payload)
  | .own (.renderPlayerInfo payload (.audioItem _) (some _) _ _) =>
    if s.state=.displaying then some (s.nextDirective .renderPlayerInfo payload) else none
  | .own (.audioPlayerUpdate state (some provider) audioItemId offset _) =>
    if Heeds s state provider audioItemId then
      (cardOf s provider audioItemId).bind fun card => cardArriving (noteUpdate s state provider audioItemId offset) card
    else none
  | .own (.acquired _) | .focusChanged .foreground _ | .focusChanged .background _ =>
    if Expects s then cardToShow s else none
  | _ => none

def perform (s : Runtime ρ) : DisplayTask ρ → Runtime ρ
  | .own task => s.perform task
  | .focusChanged newFocus accepted => s.executeOnFocusChangedEvent newFocus accepted

theorem effect_noteUpdate (state : PlayerActivity) (provider : ρ) (audioItemId : String) (offset : ℕ) :
    Effect s (noteUpdate s state provider audioItemId offset) [] [] := by
  unfold noteUpdate changeAudioItem
  dsimp only
  split
  · split <;> exact .none rfl rfl rfl rfl
  · exact .none rfl rfl rfl rfl

theorem effect_executeAudioPlayerInfoUpdates (state : PlayerActivity) (mediaProperties : Option ρ)
    (audioItemId : String) (offset : ℕ) (accepted : Bool) :
    Effect s (s.executeAudioPlayerInfoUpdates state mediaProperties audioItemId offset accepted)
      (timerCalls s (.own (.audioPlayerUpdate state mediaProperties audioItemId offset accepted)))
      (cardShown s (.own (.audioPlayerUpdate state mediaProperties audioItemId offset accepted))).toList := by
  cases mediaProperties with
  | none =>
    unfold executeAudioPlayerInfoUpdates
    split <;> exact .none rfl rfl rfl rfl
  | some provider =>
    have hnoted := effect_noteUpdate s state provider audioItemId offset
    by_cases hheeds : Heeds s state provider audioItemId
    · have hlast := hheeds.2.2
      rw [←noteUpdate_isRenderTemplateLastReceived s state provider audioItemId offset] at hlast
      have hshow := effect_displayPlayerInfo _ provider
        (decide ((s.audioPlayerInfo provider).audioPlayerState≠state)) accepted hlast
      rw [noteUpdate_directive,callsOfUpdate_eq (mild_noteUpdate s state provider audioItemId offset).state] at hshow
      have hcalls : timerCalls s (.own (.audioPlayerUpdate state (some provider) audioItemId offset accepted)) =
          callsOfUpdate s state (decide ((s.audioPlayerInfo provider).audioPlayerState≠state))
            (cardOf s provider audioItemId) := if_pos hheeds
      have hcards : cardShown s (.own (.audioPlayerUpdate state (some provider) audioItemId offset accepted)) =
          (cardOf s provider audioItemId).bind (cardArriving (noteUpdate s state provider audioItemId offset)) :=
        if_pos hheeds
      rw [executeAudioPlayerInfoUpdates_noted offset accepted hheeds,hcalls,hcards]
      exact hnoted.trans hshow
    · have hcalls : timerCalls s (.own (.audioPlayerUpdate state (some provider) audioItemId offset accepted))=[] :=
        if_neg hheeds
      have hcards : cardShown s (.own (.audioPlayerUpdate state (some provider) audioItemId offset accepted))=none :=
        if_neg hheeds
      rw [hcalls,hcards]
      obtain heq|heq := executeAudioPlayerInfoUpdates_ignored offset accepted hheeds
      · rw [heq]
        exact .none rfl rfl rfl rfl
      · rw [heq]
        exact hnoted

/-- The provider that plays the audio item has its card. -/
def matched (payload : String) (provider : ρ) (offset : ℕ) : Runtime ρ :=
  {s with
    directives := s.directives+1
    isRenderTemplateLastReceived := false
    audioItemsInExecution := Function.update s.audioItemsInExecution provider
      ⟨(s.audioItemsInExecution provider).audioItemId,some (s.nextDirective .renderPlayerInfo payload)⟩
    activeRenderPlayerInfoCardsProvider := some provider
    audioPlayerInfo := Function.update s.audioPlayerInfo provider
      ⟨(s.audioPlayerInfo provider).audioPlayerState,offset⟩}

theorem effect_handleRenderPlayerInfo (payload : String) (content : PlayerInfoPayload)
    (found : Option ρ) (offset : ℕ) (accepted : Bool) :
    Effect s (s.handleRenderPlayerInfo payload content found offset accepted)
      (timerCalls s (.own (.renderPlayerInfo payload content found offset accepted)))
      (cardShown s (.own (.renderPlayerInfo payload content found offset accepted))).toList := by
  cases content with
  | malformed | noAudioItemId => exact .none rfl rfl rfl rfl
  | audioItem =>
    cases found with
    | none => exact .none rfl rfl rfl rfl
    | some provider =>
      have hcalls : callsArriving (matched s payload provider offset).executeStopTimer
          (s.nextDirective .renderPlayerInfo payload)=[] :=
        if_neg fun hboth => CardName.noConfusion hboth.2
      have hcard : cardArriving (matched s payload provider offset).executeStopTimer
          (s.nextDirective .renderPlayerInfo payload) =
          if s.state=.displaying then some (s.nextDirective .renderPlayerInfo payload) else none := by
        unfold cardArriving cardToShow executeStopTimer matched
        dsimp only [nextDirective,bind_some]
        rw [Function.update_self]
      have hstop : Effect s (matched s payload provider offset).executeStopTimer [.stop] [] :=
        ⟨rfl,rfl,(append_nil _).symm⟩
      have hevent := effect_executeDisplayCardEvent (matched s payload provider offset).executeStopTimer
        (s.nextDirective .renderPlayerInfo payload) accepted
      have heffect := hstop.trans hevent
      rw [hcalls,hcard] at heffect
      exact ⟨heffect.timer,heffect.tasks,heffect.cards⟩

theorem effect_perform {task : DisplayTask ρ} (hnot : ¬OfTimer task) :
    Effect s (perform s task) (timerCalls s task) (cardShown s task).toList := by
  cases task with
  | focusChanged newFocus accepted =>
    cases newFocus with
    | foreground =>
      have heffect := effect_onFocusGained {s with focus := .foreground}
      exact ⟨heffect.timer,heffect.tasks,heffect.cards⟩
    | background =>
      have heffect := effect_onFocusGained {s with focus := .background}
      exact ⟨heffect.timer,heffect.tasks,heffect.cards⟩
    | none =>
      have heffect := effect_onFocusLost {s with focus := .none} accepted
      exact ⟨heffect.timer,heffect.tasks,heffect.cards⟩
  | own task =>
    cases task with
    | renderTemplate payload accepted =>
      have heffect := effect_executeDisplayCardEvent
        {s with directives := s.directives+1,isRenderTemplateLastReceived := true}
        (s.nextDirective .renderTemplate payload) accepted
      exact ⟨heffect.timer,heffect.tasks,heffect.cards⟩
    | renderPlayerInfo payload content found offset accepted =>
      exact effect_handleRenderPlayerInfo s payload content found offset accepted
    | audioPlayerUpdate state mediaProperties audioItemId offset accepted =>
      exact effect_executeAudioPlayerInfoUpdates s state mediaProperties audioItemId offset accepted
    | dialogUXStateChanged newState => exact effect_executeOnDialogUXStateChanged s newState
    | cardCleared =>
      change Effect s s.executeCardClearedEvent [] []
      unfold executeCardClearedEvent
      split <;> exact .none rfl rfl rfl rfl
    | timerExpires | timerEnds | timerEvent => exact (hnot trivial).elim
    | acquired background =>
      cases background with
      | true =>
        have heffect := effect_onFocusGained {s with requests := s.requests.tail,focus := .background}
        exact ⟨heffect.timer,heffect.tasks,heffect.cards⟩
      | false =>
        have heffect := effect_onFocusGained {s with requests := s.requests.tail,focus := .foreground}
        exact ⟨heffect.timer,heffect.tasks,heffect.cards⟩
    | released accepted =>
      have heffect := effect_onFocusLost {s with requests := s.requests.tail,focus := .none} accepted
      exact ⟨heffect.timer,heffect.tasks,heffect.cards⟩

end

def start (ρ : Type) : Display ρ := ⟨create ρ,⟨fun _ => false,fun _ => none,none⟩⟩

def Step (d : Display ρ) (task : DisplayTask ρ) (e : Display ρ) : Prop :=
  Happens d.runtime task ∧ e=⟨perform d.runtime task,record d.history d.runtime task (perform d.runtime task)⟩

theorem step_perform {d : Display ρ} (task : DisplayTask ρ) (h : Happens d.runtime task) :
    Step d task ⟨perform d.runtime task,record d.history d.runtime task (perform d.runtime task)⟩ :=
  ⟨h,rfl⟩

/-- It was started for the card on show, and nothing keeps that since. -/
def ClearsOwnCard (d : Display ρ) : Prop :=
  ∀ k,d.runtime.timerTasks.head?=some k → d.runtime.state=.displaying →
    d.history.void k=false ∧ d.history.card k=onShow d.runtime

/-- The time-out requested last is in force. -/
def LastInForce (d : Display ρ) : Prop :=
  ∀ k timeout,d.history.requested=some (k,timeout) → d.runtime.clearDisplayTimer=.running k timeout

/-- No task stops the timer or shows another card while an expired timer has a task, none shows one without
stopping a waiting timer, and no time-out is requested while one is on. -/
structure Allowed (d : Display ρ) (task : DisplayTask ρ) : Prop where
  posted : d.runtime.timerTasks≠[] → .stop∉timerCalls d.runtime task ∧
    ∀ card,cardShown d.runtime task=some card → onShow d.runtime=some card
  running : ∀ k timeout,d.runtime.clearDisplayTimer=.running k timeout → .stop∈timerCalls d.runtime task ∨
    ∀ card,cardShown d.runtime task=some card → onShow d.runtime=some card
  idle : ∀ timeout,.start timeout∈timerCalls d.runtime task → d.runtime.clearDisplayTimer=.off

structure Owns (d : Display ρ) (k : ℕ) : Prop where
  started : k<d.runtime.timers
  valid : d.history.void k=false
  card : d.history.card k=onShow d.runtime

/-- What is known between two tasks. -/
structure Inv (d : Display ρ) : Prop where
  fresh : ∀ k,d.runtime.timers≤k → d.history.void k=false
  /-- A timer with a task to run belongs to the card on show. -/
  posted : ∀ k∈d.runtime.timerTasks,Owns d k
  running : ∀ k timeout,d.runtime.clearDisplayTimer=.running k timeout → Owns d k
  inForce : LastInForce d

variable {d : Display ρ}

def after (d : Display ρ) (task : DisplayTask ρ) : Display ρ :=
  ⟨perform d.runtime task,record d.history d.runtime task (perform d.runtime task)⟩

variable {k : ℕ}

/-- A timer that is not stopped keeps its card when no other is shown. -/
theorem Owns.keep (h : Owns d k) (hnot : ¬OfTimer task) (hstop : .stop∉timerCalls d.runtime task)
    (hsame : ∀ card,cardShown d.runtime task=some card → onShow d.runtime=some card) : Owns (after d task) k := by
  have heffect := effect_perform d.runtime hnot
  have hshow := heffect.onShow_eq hsame
  have hkept : ¬∃ card∈newCards d.runtime (perform d.runtime task),d.history.card k≠some card := by
    rintro ⟨card,hcard,hother⟩
    rw [heffect.newCards_eq,mem_toList] at hcard
    exact hother (h.card.trans (hsame card hcard))
  refine ⟨lt_of_lt_of_le h.started heffect.timers_le,?_,?_⟩
  · change (d.history.void k || decide _)=false
    rw [h.valid,Bool.false_or,decide_eq_false_iff_not]
    rintro ⟨-,hcall|hcard⟩
    · exact hstop hcall
    · exact hkept hcard
  · change (if k<d.runtime.timers then d.history.card k else _)=onShow (perform d.runtime task)
    rw [if_pos h.started,hshow,h.card]

theorem Owns.quiet (h : Owns d k) (hquiet : timerCalls d.runtime task=[])
    (htimers : (perform d.runtime task).timers=d.runtime.timers)
    (hshown : shown (perform d.runtime task).calls=shown d.runtime.calls) : Owns (after d task) k := by
  have hnew : newCards d.runtime (perform d.runtime task)=[] := by
    unfold newCards
    rw [hshown,drop_length]
  refine ⟨?_,?_,?_⟩
  · change k<(perform d.runtime task).timers
    rw [htimers]
    exact h.started
  · change (d.history.void k || decide _)=false
    rw [h.valid,Bool.false_or,decide_eq_false_iff_not,hquiet,hnew]
    rintro ⟨-,hcall|⟨card,hcard,-⟩⟩
    · cases hcall
    · cases hcard
  · change (if k<d.runtime.timers then d.history.card k else _)=onShow (perform d.runtime task)
    rw [if_pos h.started,h.card]
    unfold onShow
    rw [hshown]

section

variable (h : Inv d)
include h

theorem owns_started
    (htimers : (perform d.runtime task).timers=d.runtime.timers+1) : Owns (after d task) d.runtime.timers := by
  refine ⟨?_,?_,?_⟩
  · change d.runtime.timers<(perform d.runtime task).timers
    rw [htimers]
    exact lt_succ_self _
  · change (d.history.void d.runtime.timers || decide _)=false
    rw [h.fresh _ (le_refl _),Bool.false_or,decide_eq_false_iff_not]
    exact fun hless => lt_irrefl _ hless.1
  · exact if_neg (lt_irrefl _)

/-- The history has no new void timers but those that were started. -/
theorem record_fresh (hk : d.runtime.timers≤k) : (after d task).history.void k=false := by
  change (d.history.void k || decide _)=false
  rw [h.fresh k hk,Bool.false_or,decide_eq_false_iff_not]
  exact fun hless => absurd hless.1 (not_lt.mpr hk)

section

variable (hnot : ¬OfTimer task) (hallowed : Allowed d task)
include hnot hallowed

theorem inv_quiet (hquiet : timerCalls d.runtime task=[]) : Inv (after d task) := by
  have heffect := effect_perform d.runtime hnot
  have hnostop : .stop∉timerCalls d.runtime task := by
    rw [hquiet]
    exact not_mem_nil
  have htimer := heffect.timer
  rw [hquiet,foldl_nil] at htimer
  obtain ⟨hclear,htimers⟩ := Prod.mk.inj htimer
  refine ⟨?_,?_,?_,?_⟩
  · intro k hk
    exact record_fresh h (le_trans heffect.timers_le hk)
  · intro k hk
    change k∈(perform d.runtime task).timerTasks at hk
    rw [heffect.tasks] at hk
    have hposted := hallowed.posted (ne_nil_of_mem hk)
    exact (h.posted k hk).keep hnot hnostop hposted.2
  · intro k timeout hrunning
    change (perform d.runtime task).clearDisplayTimer=_ at hrunning
    rw [hclear] at hrunning
    obtain hstop|hsame := hallowed.running k timeout hrunning
    · exact (hnostop hstop).elim
    · exact (h.running k timeout hrunning).keep hnot hnostop hsame
  · intro k timeout hrequested
    change (perform d.runtime task).clearDisplayTimer=_
    rw [hclear]
    refine h.inForce k timeout (request_quiet ?_ hrequested)
    rw [hquiet]
    rfl

theorem inv_stopped (hlast : (timerCalls d.runtime task).getLast?=some .stop) : Inv (after d task) := by
  have heffect := effect_perform d.runtime hnot
  have hoff : (perform d.runtime task).clearDisplayTimer=.off := by
    have htimer := heffect.timer
    rw [←dropLast_append_getLast? _ hlast,foldl_concat] at htimer
    exact (Prod.mk.inj htimer).1
  refine ⟨?_,?_,?_,?_⟩
  · intro k hk
    exact record_fresh h (le_trans heffect.timers_le hk)
  · intro k hk
    change k∈(perform d.runtime task).timerTasks at hk
    rw [heffect.tasks] at hk
    have hposted := hallowed.posted (ne_nil_of_mem hk)
    exact (hposted.1 (mem_of_getLast? hlast)).elim
  · intro k timeout hrunning
    change (perform d.runtime task).clearDisplayTimer=_ at hrunning
    rw [hoff] at hrunning
    cases hrunning
  · intro k timeout hrequested
    change request _ _ _ _=_ at hrequested
    rw [request_stopped _ hlast] at hrequested
    cases hrequested

theorem inv_started (hcalls : timerCalls d.runtime task=[.start timeout]) : Inv (after d task) := by
  have heffect := effect_perform d.runtime hnot
  have hnostop : .stop∉timerCalls d.runtime task := by
    rw [hcalls]
    cases timeout <;> decide
  have hoff := hallowed.idle timeout (by rw [hcalls]; exact mem_singleton_self _)
  have htimer := heffect.timer
  rw [hcalls,hoff] at htimer
  obtain ⟨hclear,htimers⟩ := Prod.mk.inj (htimer : _=(ClearTimer.running d.runtime.timers timeout,d.runtime.timers+1))
  refine ⟨?_,?_,?_,?_⟩
  · intro k hk
    exact record_fresh h (le_trans heffect.timers_le hk)
  · intro k hk
    change k∈(perform d.runtime task).timerTasks at hk
    rw [heffect.tasks] at hk
    have hposted := hallowed.posted (ne_nil_of_mem hk)
    exact (h.posted k hk).keep hnot hnostop hposted.2
  · intro k other hrunning
    change (perform d.runtime task).clearDisplayTimer=_ at hrunning
    rw [hclear] at hrunning
    cases hrunning
    exact owns_started h htimers
  · intro k other hrequested
    have hdemand := request_started (by rw [hcalls]; rfl) hrequested
    cases hdemand
    exact hclear

end

theorem inv_timerExpires (hhappens : Happens d.runtime (.own .timerExpires)) : Inv (after d (.own .timerExpires)) := by
  obtain ⟨n,timeout,hrunning⟩ := hhappens
  have hperform : perform d.runtime (.own .timerExpires) =
      {d.runtime with clearDisplayTimer := .expired,timerTasks := d.runtime.timerTasks++[n]} := by
    unfold perform Runtime.perform
    rw [hrunning]
  have hkeep : ∀ k,Owns d k → Owns (after d (.own .timerExpires)) k := by
    intro k hk
    refine hk.quiet rfl ?_ ?_
    · rw [hperform]
    · rw [hperform]
  refine ⟨?_,?_,?_,?_⟩
  · intro k hk
    change (perform d.runtime _).timers≤k at hk
    rw [hperform] at hk
    exact record_fresh h hk
  · intro k hk
    change k∈(perform d.runtime _).timerTasks at hk
    rw [hperform,mem_append,mem_singleton] at hk
    obtain hposted|rfl := hk
    · exact hkeep k (h.posted k hposted)
    · exact hkeep k (h.running k timeout hrunning)
  · intro k other hother
    change (perform d.runtime _).clearDisplayTimer=_ at hother
    rw [hperform] at hother
    cases hother
  · exact nofun

theorem inv_timerEnds (hhappens : Happens d.runtime (.own .timerEnds)) : Inv (after d (.own .timerEnds)) := by
  refine ⟨fun k hk => record_fresh h hk,?_,?_,?_⟩
  · exact fun k hk => (h.posted k hk).quiet rfl rfl rfl
  · exact nofun
  · intro k timeout hrequested
    have hrequest : request d.history d.runtime (.own .timerEnds) (perform d.runtime (.own .timerEnds)) =
        some (k,timeout) := hrequested
    have hforce := h.inForce k timeout (request_quiet rfl hrequest)
    have hexpired : d.runtime.clearDisplayTimer=.expired := hhappens
    rw [hexpired] at hforce
    cases hforce

theorem inv_timerEvent : Inv (after d (.own .timerEvent)) := by
  have heffect := effect_executeTimerEvent {d.runtime with timerTasks := d.runtime.timerTasks.tail}
  obtain ⟨hclear,htimers⟩ := Prod.mk.inj heffect.timer
  have hshown := heffect.cards
  rw [append_nil] at hshown
  have hkeep : ∀ k,Owns d k → Owns (after d (.own .timerEvent)) k := fun k hk => hk.quiet rfl htimers hshown
  refine ⟨?_,?_,?_,?_⟩
  · intro k hk
    exact record_fresh h (htimers.symm.trans_le hk)
  · intro k hk
    change k∈(perform d.runtime _).timerTasks at hk
    rw [show (perform d.runtime (.own .timerEvent)).timerTasks=d.runtime.timerTasks.tail from heffect.tasks] at hk
    exact hkeep k (h.posted k (mem_of_mem_tail hk))
  · intro k timeout hrunning
    exact hkeep k (h.running k timeout (hclear.symm.trans hrunning))
  · intro k timeout hrequested
    have hrequest : request d.history d.runtime (.own .timerEvent) (perform d.runtime (.own .timerEvent)) =
        some (k,timeout) := hrequested
    exact hclear.trans (h.inForce k timeout (request_quiet rfl hrequest))

theorem inv_ofTimer (htimer : OfTimer task) (hhappens : Happens d.runtime task) : Inv (after d task) := by
  cases task with
  | focusChanged => exact htimer.elim
  | own task =>
    cases task with
    | timerExpires => exact inv_timerExpires h hhappens
    | timerEnds => exact inv_timerEnds h hhappens
    | timerEvent => exact inv_timerEvent h
    | _ => exact htimer.elim

theorem inv_perform (hhappens : Happens d.runtime task) (hallowed : Allowed d task) : Inv (after d task) := by
  by_cases htimer : OfTimer task
  · exact inv_ofTimer h htimer hhappens
  · cases hlast : (timerCalls d.runtime task).getLast? with
    | none => exact inv_quiet h htimer hallowed (List.getLast?_eq_none_iff.mp hlast)
    | some call =>
      cases call with
      | stop => exact inv_stopped h htimer hallowed hlast
      | start =>
        obtain hcalls|hcalls := timerCalls_start (mem_of_getLast? hlast)
        · exact inv_started h htimer hallowed hcalls
        · rw [hcalls] at hlast
          cases hlast

end

/-- Over every run in which no task overtakes that of an expired timer, no card is shown beside a timer of
another, and no time-out is requested while a timer is on, a timer clears its own card only, and the last
time-out is in force. -/
theorem timer_clears_own_card {tasks : List (DisplayTask ρ)}
    (run : Run (Guarded Step Allowed) (start ρ) tasks d) : ClearsOwnCard d ∧ LastInForce d := by
  have hinv : Inv d := by
    refine run.invariant Inv ⟨fun _ _ => rfl,?_,?_,?_⟩ ?_
    · exact nofun
    · exact nofun
    · exact nofun
    · rintro d task _ hd ⟨hallowed,hhappens,rfl⟩
      exact inv_perform hd hhappens hallowed
  refine ⟨?_,hinv.inForce⟩
  intro k hhead _
  have howns := hinv.posted k (mem_of_mem_head? hhead)
  exact ⟨howns.valid,howns.card⟩

/-- A template card is shown, the dialog ends and the timer expires. -/
theorem timer_clears_own_card_template :
    ∃ tasks d,Run (Guarded Step Allowed) (start ℕ) tasks d ∧ d.runtime.state=.displaying ∧
      d.runtime.timerTasks=[0] ∧ ClearsOwnCard d ∧ LastInForce d := by
  have run := (@Run.refl _ _ (Guarded Step Allowed) (start ℕ)).allow
    (step_perform (.own (.renderTemplate "card" true)) trivial)
    ⟨fun hposted => (hposted rfl).elim,fun _ _ h => (by cases h),fun _ _ => rfl⟩
  have run := run.allow (step_perform (.own (.acquired false)) rfl)
    ⟨fun hposted => (hposted rfl).elim,fun _ _ h => (by cases h),fun _ _ => rfl⟩
  have run := run.allow (step_perform (.own (.dialogUXStateChanged .idle)) trivial)
    ⟨fun hposted => (hposted rfl).elim,fun _ _ h => (by cases h),fun _ _ => rfl⟩
  have run := run.allow (step_perform (.own .timerExpires) ⟨0,.ttsFinished,rfl⟩)
    ⟨fun hposted => (hposted rfl).elim,fun _ _ _ => .inr (fun _ h => (by cases h)),fun _ h => (by cases h)⟩
  exact ⟨_,_,run,rfl,rfl,timer_clears_own_card run⟩

/-- The task of an expired timer clears the card that has come after it. -/
theorem expired_timer_clears_other_card : ¬∀ tasks d,Run Step (start ℕ) tasks d → ClearsOwnCard d ∧ LastInForce d := by
  intro hall
  have run := (@Run.refl _ _ Step (start ℕ)).snoc (step_perform (.own (.renderTemplate "first" true)) trivial)
  have run := run.snoc (step_perform (.own (.acquired false)) rfl)
  have run := run.snoc (step_perform (.own (.dialogUXStateChanged .idle)) trivial)
  have run := run.snoc (step_perform (.own .timerExpires) ⟨0,.ttsFinished,rfl⟩)
  have run := run.snoc (step_perform (.own (.renderTemplate "second" true)) trivial)
  have hvoid := ((hall _ _ run).1 0 rfl rfl).1
  exact absurd hvoid (by decide)

end AlexaClientSDK.DisplayTimers
