import AlexaClientSDK.LabelledRuns
import AlexaClientSDK.TemplateRuntime

/-!
# No display card is lost

A template card that was not shown yet waits for an answer of the focus manager. Three things break the chain. An audio
item without a card gives up the card that waits, template or not. The answer to the acquisition that was given up is
taken for an unexpected one when another card has arrived, which is forgotten. And an acquisition that is refused is
waited for.
-/

namespace AlexaClientSDK.DisplayCards

open Function List LabelledRuns FocusChannel TemplateRuntime Runtime
open AudioPlayer (PlayerActivity ChannelRequest)

variable {ρ : Type}

def Outstanding : State → List ChannelRequest → Prop
  | .idle,requests | .displaying,requests => requests=[]
  | .acquiring,requests => requests=[.acquire]
  | .releasing,requests | .reacquiring,requests => requests=[.acquire] ∨ requests=[.release]

def Rendered (s : Runtime ρ) (card : Directive) : Prop :=
  ∃ focus,Call.renderTemplateCard card focus∈s.calls

/-- The newest card is a template card. -/
def ShowsTemplate (s : Runtime ρ) : Prop :=
  ∃ card,s.lastDisplayedDirective=some card ∧ card.name=.renderTemplate

/-- What is known between two tasks. -/
structure Inv (s : Runtime ρ) : Prop where
  outstanding : Outstanding s.state s.requests
  /-- A template card that is the newest was shown, or waits for the channel. -/
  rendered : ∀ card,s.lastDisplayedDirective=some card → card.name=.renderTemplate →
    Rendered s card ∨ s.state=.acquiring ∨ s.state=.reacquiring

variable {s t : Runtime ρ}

/-- Requests and the newest card stay, and what was shown was shown. -/
structure Mild (s t : Runtime ρ) : Prop where
  state : t.state=s.state
  requests : t.requests=s.requests
  last : t.lastDisplayedDirective=s.lastDisplayedDirective
  calls : ∀ call∈s.calls,call∈t.calls

theorem Mild.refl (s : Runtime ρ) : Mild s s := ⟨rfl,rfl,rfl,fun _ h => h⟩

theorem Mild.trans {u : Runtime ρ} (h : Mild s t) (h' : Mild t u) : Mild s u where
  state := h'.state.trans h.state
  requests := h'.requests.trans h.requests
  last := h'.last.trans h.last
  calls := fun call hcall => h'.calls call (h.calls call hcall)

theorem Rendered.mild {card : Directive} (h : Rendered s card) (hmild : Mild s t) : Rendered t card := by
  obtain ⟨focus,hcall⟩ := h
  exact ⟨focus,hmild.calls _ hcall⟩

theorem Inv.mild (h : Inv s) (hmild : Mild s t) : Inv t := by
  constructor
  · rw [hmild.state,hmild.requests]
    exact h.outstanding
  · intro card hcard htemplate
    rw [hmild.last] at hcard
    rw [hmild.state]
    obtain hshown|hwaits := h.rendered card hcard htemplate
    · exact .inl (hshown.mild hmild)
    · exact .inr hwaits

section

variable (s)

theorem mild_tell (call : Call) : Mild s (s.tell call) :=
  ⟨rfl,rfl,rfl,fun _ h => mem_append_left _ h⟩

theorem mild_executeStartTimer (timeout : Timeout) : Mild s (s.executeStartTimer timeout) := by
  unfold executeStartTimer
  split
  · exact ⟨rfl,rfl,rfl,fun _ h => h⟩
  · exact Mild.refl s

theorem mild_executeStopTimer : Mild s s.executeStopTimer := ⟨rfl,rfl,rfl,fun _ h => h⟩

/-- The card of the audio item is shown or cleared. -/
theorem mild_executeRenderPlayerInfoCallbacks (isClearCard : Bool) :
    Mild s (s.executeRenderPlayerInfoCallbacks isClearCard) := by
  unfold executeRenderPlayerInfoCallbacks
  split
  · exact mild_tell s _
  · split
    · exact Mild.refl s
    · split
      · exact Mild.refl s
      · exact mild_tell s _

theorem mild_executeDisplayCard : Mild s s.executeDisplayCard := by
  unfold executeDisplayCard
  split
  · exact Mild.refl s
  · split
    · exact (mild_executeStopTimer s).trans (mild_tell _ _)
    · exact mild_executeRenderPlayerInfoCallbacks s false

theorem mild_executeClearCard : Mild s s.executeClearCard := by
  unfold executeClearCard
  split
  · exact Mild.refl s
  · split
    · exact mild_tell _ _
    · exact mild_executeRenderPlayerInfoCallbacks s true

end

theorem rendered_executeDisplayCard {card : Directive} (hcard : s.lastDisplayedDirective=some card)
    (htemplate : card.name=.renderTemplate) : Rendered s.executeDisplayCard card := by
  unfold executeDisplayCard
  rw [hcard]
  dsimp only
  rw [htemplate]
  exact ⟨s.focus,mem_append_right _ mem_cons_self⟩

theorem inv_executeDisplayCard (hstate : t.state=.displaying) (hrequests : t.requests=[])
    (hlast : t.lastDisplayedDirective=s.lastDisplayedDirective) (hcalls : t.calls=s.executeDisplayCard.calls) :
    Inv t := by
  constructor
  · rw [hstate]
    exact hrequests
  · intro card hcard htemplate
    rw [hlast] at hcard
    obtain ⟨focus,hcall⟩ := rendered_executeDisplayCard hcard htemplate
    rw [←hcalls] at hcall
    exact .inl ⟨focus,hcall⟩

variable {accepted : Bool}

theorem inv_executeDisplayCardEvent (info : Directive) (hout : Outstanding s.state s.requests)
    (haccepted : s.state=.idle → accepted=true) : Inv (s.executeDisplayCardEvent info accepted) := by
  unfold executeDisplayCardEvent
  dsimp only
  split
  · next hstate =>
    rw [hstate] at hout
    unfold acquireChannel
    rw [haccepted hstate,if_pos rfl]
    refine ⟨?_,fun _ _ _ => .inr (.inl rfl)⟩
    rw [show s.requests=[] from hout]
    rfl
  · next hstate => exact ⟨hout,fun _ _ _ => .inr (.inl hstate)⟩
  · next hstate =>
    rw [hstate] at hout
    have hmild := mild_executeDisplayCard {s with lastDisplayedDirective := some info}
    exact inv_executeDisplayCard (hmild.state.trans hstate) (hmild.requests.trans hout) hmild.last rfl
  · next hstate =>
    rw [hstate] at hout
    exact ⟨hout,fun _ _ _ => .inr (.inr rfl)⟩
  · next hstate => exact ⟨hout,fun _ _ _ => .inr (.inr hstate)⟩

theorem inv_release (h : Inv s) (hstate : s.state=.displaying) (hmild : Mild s t) :
    Inv {t.releaseChannel with state := .releasing} := by
  have hout := h.outstanding
  rw [hstate] at hout
  constructor
  · right
    change t.requests++[.release]=[.release]
    rw [hmild.requests,show s.requests=[] from hout]
    rfl
  · intro card hcard htemplate
    have hlast : s.lastDisplayedDirective=some card := hmild.last.symm.trans hcard
    obtain hshown|hwaits|hwaits := h.rendered card hlast htemplate
    · have hkept : Rendered t card := hshown.mild hmild
      exact .inl hkept
    · rw [hstate] at hwaits
      cases hwaits
    · rw [hstate] at hwaits
      cases hwaits

theorem inv_executeCardClearedEvent (h : Inv s) : Inv s.executeCardClearedEvent := by
  unfold executeCardClearedEvent
  split
  · next hstate => exact inv_release h hstate (Mild.refl s)
  all_goals exact h

theorem inv_executeTimerEvent (h : Inv s) : Inv s.executeTimerEvent := by
  unfold executeTimerEvent
  split
  · next hstate => exact inv_release h hstate (mild_executeClearCard s)
  all_goals exact h

/-- The newest card is shown, or the channel is given back. -/
theorem inv_onFocusGained (hrequests : s.requests=[])
    (hrendered : ∀ card,s.lastDisplayedDirective=some card → card.name=.renderTemplate →
      Rendered s card ∨ s.state=.acquiring) : Inv s.onFocusGained := by
  have hback : s.state≠.acquiring → Inv {s.releaseChannel with state := .releasing} := by
    intro hstate
    constructor
    · right
      change s.requests++[.release]=[.release]
      rw [hrequests,nil_append]
    · intro card hcard htemplate
      have hshown : Rendered s card := (hrendered card hcard htemplate).resolve_right hstate
      exact .inl hshown
  have hmild := mild_executeDisplayCard s
  unfold onFocusGained
  split
  · next hstate => exact hback (by rw [hstate]; decide)
  · next hstate => exact hback (by rw [hstate]; decide)
  · next hstate => exact hback (by rw [hstate]; decide)
  · exact inv_executeDisplayCard rfl (hmild.requests.trans hrequests) hmild.last rfl
  · next hstate =>
    exact inv_executeDisplayCard (hmild.state.trans hstate) (hmild.requests.trans hrequests) hmild.last rfl

/-- There is no card left, or the channel is acquired for the newest one. -/
theorem inv_onFocusLost (hrequests : s.requests=[])
    (hrendered : ∀ card,s.lastDisplayedDirective=some card → card.name=.renderTemplate →
      Rendered s card ∨ s.state=.reacquiring) (haccepted : s.state=.reacquiring → accepted=true) :
    Inv (s.onFocusLost accepted) := by
  have hgone : s.state≠.reacquiring → Inv {s.executeClearCard with state := .idle} ∧ Inv {s with state := .idle} := by
    intro hstate
    have hshown : ∀ card,s.lastDisplayedDirective=some card → card.name=.renderTemplate → Rendered s card :=
      fun card hcard htemplate => (hrendered card hcard htemplate).resolve_right hstate
    have hmild := mild_executeClearCard s
    refine ⟨⟨hmild.requests.trans hrequests,?_⟩,⟨hrequests,?_⟩⟩
    · intro card hcard htemplate
      have hcleared : Rendered s.executeClearCard card :=
        (hshown card (hmild.last.symm.trans hcard) htemplate).mild hmild
      exact .inl hcleared
    · intro card hcard htemplate
      exact .inl (hshown card hcard htemplate)
  unfold onFocusLost
  split
  · next hstate =>
    have hidle := (hgone (by rw [hstate]; decide)).2
    rw [←hstate] at hidle
    exact hidle
  · next hstate => exact (hgone (by rw [hstate]; decide)).2
  · next hstate => exact (hgone (by rw [hstate]; decide)).2
  · next hstate => exact (hgone (by rw [hstate]; decide)).1
  · next hstate =>
    unfold acquireChannel
    rw [haccepted hstate,if_pos rfl]
    refine ⟨?_,fun _ _ _ => .inr (.inl rfl)⟩
    change s.requests++[.acquire]=[.acquire]
    rw [hrequests,nil_append]

variable {requests : List ChannelRequest} {state : State}

theorem Outstanding.tail (h : Outstanding state requests) : requests.tail=[] := by
  cases state with
  | idle | displaying => rw [show requests=[] from h,tail_nil]
  | acquiring => rw [show requests=[.acquire] from h,tail_cons]
  | releasing | reacquiring =>
    obtain hacquire|hrelease := h
    · rw [hacquire,tail_cons]
    · rw [hrelease,tail_cons]

/-- When nothing is outstanding there is no card, or it is displayed. -/
theorem Outstanding.at_rest (h : Outstanding state requests)
    (hrests : requests=[]) : state=.idle ∨ state=.displaying := by
  subst hrests
  cases state with
  | idle => exact .inl rfl
  | displaying => exact .inr rfl
  | acquiring => cases h
  | releasing|reacquiring => obtain h|h := h <;> cases h

theorem Outstanding.not_acquiring
    (h : Outstanding state requests) (hhead : requests.head?=some .release) : state≠.acquiring := by
  rintro rfl
  rw [show requests=[.acquire] from h] at hhead
  cases hhead

theorem inv_acquired {newFocus : FocusState} (hnew : newFocus≠.none) (h : Inv s)
    (hshows : s.state=.reacquiring → ¬ShowsTemplate s) :
    Inv ({s with requests := s.requests.tail}.executeOnFocusChangedEvent newFocus true) := by
  have hgained : Inv (onFocusGained {s with requests := s.requests.tail,focus := newFocus}) := by
    refine inv_onFocusGained h.outstanding.tail ?_
    intro card hcard htemplate
    obtain hshown|hwaits|hwaits := h.rendered card hcard htemplate
    · exact .inl hshown
    · exact .inr hwaits
    · exact (hshows hwaits ⟨card,hcard,htemplate⟩).elim
  cases newFocus with
  | none => exact (hnew rfl).elim
  | foreground => exact hgained
  | background => exact hgained

theorem inv_released (h : Inv s) (hhead : s.requests.head?=some .release)
    (haccepted : s.state=.reacquiring → accepted=true) :
    Inv ({s with requests := s.requests.tail}.executeOnFocusChangedEvent .none accepted) := by
  refine @inv_onFocusLost ρ {s with requests := s.requests.tail,focus := .none} accepted h.outstanding.tail ?_ haccepted
  intro card hcard htemplate
  obtain hshown|hwaits|hwaits := h.rendered card hcard htemplate
  · exact .inl hshown
  · exact (h.outstanding.not_acquiring hhead hwaits).elim
  · exact .inr hwaits

/-- The card the audio item was shown with, or the newest that waits for it. -/
def cardOf (s : Runtime ρ) (provider : ρ) (audioItemId : String) : Option Directive :=
  if (s.audioItemsInExecution provider).audioItemId=audioItemId then
    (s.audioItemsInExecution provider).directive
  else (s.audioItems.find? fun item => mentions item.1 audioItemId).map Prod.snd

/-- The update says something new, and no template card came after the audio items unless playback has started.
-/
def Heeds (s : Runtime ρ) (state : PlayerActivity) (provider : ρ) (audioItemId : String) : Prop :=
  (state≠.idle ∧ state≠.bufferUnderrun) ∧ ((s.audioPlayerInfo provider).audioPlayerState≠state ∨
      (s.audioItemsInExecution provider).audioItemId≠audioItemId) ∧
    (s.isRenderTemplateLastReceived=true → state=.playing)

instance (s : Runtime ρ) (state : PlayerActivity) (provider : ρ) (audioItemId : String) :
    Decidable (Heeds s state provider audioItemId) :=
  inferInstanceAs (Decidable (_ ∧ _ ∧ _))

section

variable (s)

def cardBrought : RuntimeTask ρ → Option Directive
  | .renderTemplate payload _ => some (s.nextDirective .renderTemplate payload)
  | .renderPlayerInfo payload (.audioItem _) (some _) _ _ => some (s.nextDirective .renderPlayerInfo payload)
  | .audioPlayerUpdate state (some provider) audioItemId _ _ =>
    if Heeds s state provider audioItemId then cardOf s provider audioItemId else none
  | _ => none

/-- A card for the audio item that waits for the channel is given up. -/
def giveUp : Runtime ρ := if s.state=.acquiring then {s with state := .releasing} else s

theorem mild_executeAudioPlayerStartTimer (state : PlayerActivity) : Mild s (s.executeAudioPlayerStartTimer state) := by
  cases state with
  | idle | bufferUnderrun => exact Mild.refl s
  | playing => exact mild_executeStopTimer s
  | stopped | paused | finished => exact mild_executeStartTimer s _

end

variable {state : PlayerActivity}

theorem displayPlayerInfo_eq (s : Runtime ρ) (provider : ρ) (isStateUpdated accepted : Bool)
    (hheeds : s.isRenderTemplateLastReceived=true → state=.playing) :
    ∃ t,Mild s t ∧ s.displayPlayerInfo state provider isStateUpdated accepted =
      match (s.audioItemsInExecution provider).directive with
      | some directive => t.executeDisplayCardEvent directive accepted
      | none => giveUp t := by
  have hmild : Mild s {s with isRenderTemplateLastReceived := false} := ⟨rfl,rfl,rfl,fun _ h => h⟩
  unfold displayPlayerInfo
  rw [if_neg (by simpa using hheeds)]
  dsimp only
  cases (s.audioItemsInExecution provider).directive with
  | none => exact ⟨_,hmild,rfl⟩
  | some =>
    refine ⟨_,?_,rfl⟩
    split
    · exact hmild.trans (mild_executeAudioPlayerStartTimer _ state)
    · exact hmild

variable [DecidableEq ρ]

section

variable (s)

theorem mild_changeAudioItem (provider : ρ) (audioItemId : String) :
    Mild s (s.changeAudioItem provider audioItemId) := by
  unfold changeAudioItem
  split
  · exact ⟨rfl,rfl,rfl,fun _ h => h⟩
  · exact ⟨rfl,rfl,rfl,fun _ h => h⟩

theorem changeAudioItem_directive (provider : ρ) (audioItemId : String) :
    ((s.changeAudioItem provider audioItemId).audioItemsInExecution provider).directive =
      (s.audioItems.find? fun item => mentions item.1 audioItemId).map Prod.snd := by
  rw [List.find?_eq_bind_findIdx?_getElem?]
  unfold changeAudioItem
  split
  · next hnone =>
    dsimp only
    rw [hnone,update_self]
    rfl
  · next index hsome =>
    dsimp only
    rw [hsome,update_self]
    rfl

section

variable (state)

/-- What an update changes before a card is shown. -/
def noteUpdate (provider : ρ) (audioItemId : String) (offset : ℕ) : Runtime ρ :=
  let t := {s with audioPlayerInfo := update s.audioPlayerInfo provider ⟨state,offset⟩}
  if decide ((s.audioItemsInExecution provider).audioItemId≠audioItemId) then
    t.changeAudioItem provider audioItemId
  else t

theorem mild_noteUpdate (provider : ρ) (audioItemId : String) (offset : ℕ) :
    Mild s (noteUpdate s state provider audioItemId offset) := by
  have hmild : Mild s {s with audioPlayerInfo := update s.audioPlayerInfo provider ⟨state,offset⟩} :=
    ⟨rfl,rfl,rfl,fun _ h => h⟩
  unfold noteUpdate
  split
  · exact hmild.trans (mild_changeAudioItem _ provider audioItemId)
  · exact hmild

theorem noteUpdate_isRenderTemplateLastReceived (provider : ρ) (audioItemId : String) (offset : ℕ) :
    (noteUpdate s state provider audioItemId offset).isRenderTemplateLastReceived = s.isRenderTemplateLastReceived := by
  unfold noteUpdate
  dsimp only
  split
  · unfold changeAudioItem
    split <;> rfl
  · rfl

theorem noteUpdate_directive (provider : ρ) (audioItemId : String) (offset : ℕ) :
    ((noteUpdate s state provider audioItemId offset).audioItemsInExecution provider).directive =
      cardOf s provider audioItemId := by
  unfold noteUpdate cardOf
  by_cases hsame : (s.audioItemsInExecution provider).audioItemId=audioItemId
  · rw [if_neg (by simpa using hsame),if_pos hsame]
  · rw [if_pos (by simpa using hsame),if_neg hsame]
    exact changeAudioItem_directive _ provider audioItemId

end

end

variable {provider : ρ} {audioItemId : String}

section

variable (offset : ℕ)

/-- An update that is not ignored is noted before a card is shown. -/
theorem executeAudioPlayerInfoUpdates_noted (accepted : Bool) (hheeds : Heeds s state provider audioItemId) :
    s.executeAudioPlayerInfoUpdates state (some provider) audioItemId offset accepted =
      (noteUpdate s state provider audioItemId offset).displayPlayerInfo state provider
        (decide ((s.audioPlayerInfo provider).audioPlayerState≠state)) accepted := by
  obtain ⟨⟨hidle,hunderrun⟩,hnews,-⟩ := hheeds
  unfold executeAudioPlayerInfoUpdates
  rw [if_neg (not_or.mpr ⟨hidle,hunderrun⟩)]
  dsimp only
  rw [if_neg]
  · rfl
  · simpa [Decidable.imp_iff_not_or] using hnews

theorem executeAudioPlayerInfoUpdates_ignored (accepted : Bool) (hignores : ¬Heeds s state provider audioItemId) :
    s.executeAudioPlayerInfoUpdates state (some provider) audioItemId offset accepted=s ∨
      s.executeAudioPlayerInfoUpdates state (some provider) audioItemId offset accepted =
        noteUpdate s state provider audioItemId offset := by
  unfold executeAudioPlayerInfoUpdates
  split
  · exact .inl rfl
  next hquiet =>
  dsimp only
  split
  · exact .inl rfl
  next hnews =>
  right
  change (noteUpdate s state provider audioItemId offset).displayPlayerInfo state provider _ accepted=_
  unfold displayPlayerInfo
  rw [if_pos]
  rw [noteUpdate_isRenderTemplateLastReceived]
  unfold Heeds at hignores
  grind

theorem executeAudioPlayerInfoUpdates_heeded (accepted : Bool) (hheeds : Heeds s state provider audioItemId) :
    ∃ t,Mild s t ∧ s.executeAudioPlayerInfoUpdates state (some provider) audioItemId offset accepted =
      match cardOf s provider audioItemId with
      | some directive => t.executeDisplayCardEvent directive accepted
      | none => giveUp t := by
  have hlast := hheeds.2.2
  rw [←noteUpdate_isRenderTemplateLastReceived s state provider audioItemId offset] at hlast
  obtain ⟨t,hmild,heq⟩ := displayPlayerInfo_eq _ provider
    (decide ((s.audioPlayerInfo provider).audioPlayerState≠state)) accepted hlast
  rw [noteUpdate_directive] at heq
  refine ⟨t,(mild_noteUpdate s state provider audioItemId offset).trans hmild,?_⟩
  rw [executeAudioPlayerInfoUpdates_noted offset accepted hheeds,heq]

theorem mild_executeAudioPlayerInfoUpdates (accepted : Bool) (hignores : ¬Heeds s state provider audioItemId) :
    Mild s (s.executeAudioPlayerInfoUpdates state (some provider) audioItemId offset accepted) := by
  obtain heq|heq := executeAudioPlayerInfoUpdates_ignored offset accepted hignores
  · rw [heq]
    exact Mild.refl s
  · rw [heq]
    exact mild_noteUpdate s state provider audioItemId offset

end

/-- Acquisitions are accepted, no update comes without a card while a template card waits for the channel, and
no template card before the answer to one given up. -/
def Allowed (s : Runtime ρ) : RuntimeTask ρ → Prop
  | .renderTemplate _ accepted | .renderPlayerInfo _ _ _ _ accepted => s.state=.idle → accepted=true
  | .audioPlayerUpdate state mediaProperties audioItemId _ accepted =>
    (s.state=.idle → accepted=true) ∧ ∀ provider,mediaProperties=some provider →
      Heeds s state provider audioItemId → s.state=.acquiring → ShowsTemplate s →
      cardOf s provider audioItemId≠none
  | .acquired _ => s.state=.reacquiring → ¬ShowsTemplate s
  | .released accepted => s.state=.reacquiring → accepted=true
  | .dialogUXStateChanged _ | .cardCleared | .timerExpires | .timerEnds | .timerEvent => True

omit [DecidableEq ρ] in
theorem inv_giveUp (h : Inv s) (hshows : s.state=.acquiring → ¬ShowsTemplate s) : Inv (giveUp s) := by
  unfold giveUp
  split
  · next hstate =>
    have hout := h.outstanding
    rw [hstate] at hout
    refine ⟨.inl hout,?_⟩
    intro card hcard htemplate
    exact (hshows hstate ⟨card,hcard,htemplate⟩).elim
  · exact h

theorem inv_handleRenderPlayerInfo (payload : String) (content : PlayerInfoPayload)
    (found : Option ρ) (offset : ℕ) (h : Inv s) (haccepted : s.state=.idle → accepted=true) :
    Inv (s.handleRenderPlayerInfo payload content found offset accepted) := by
  unfold handleRenderPlayerInfo
  split
  · exact h.mild ⟨rfl,rfl,rfl,fun _ h => h⟩
  · exact h.mild ⟨rfl,rfl,rfl,fun _ h => h⟩
  · split
    · exact h.mild ⟨rfl,rfl,rfl,fun _ h => h⟩
    · refine Inv.mild (inv_executeDisplayCardEvent _ ?_ ?_) ⟨rfl,rfl,rfl,fun _ h => h⟩
      · exact h.outstanding
      · exact haccepted

theorem inv_executeAudioPlayerInfoUpdates {mediaProperties : Option ρ} {offset : ℕ} (h : Inv s)
    (hallowed : Allowed s (.audioPlayerUpdate state mediaProperties audioItemId offset accepted)) :
    Inv (s.executeAudioPlayerInfoUpdates state mediaProperties audioItemId offset accepted) := by
  obtain ⟨haccepted,hcard⟩ := hallowed
  cases mediaProperties with
  | none =>
    unfold executeAudioPlayerInfoUpdates
    split <;> exact h
  | some provider =>
    by_cases hheeds : Heeds s state provider audioItemId
    · obtain ⟨t,hmild,heq⟩ := executeAudioPlayerInfoUpdates_heeded offset accepted hheeds
      have ht : Inv t := h.mild hmild
      rw [heq]
      cases hcardOf : cardOf s provider audioItemId with
      | some card =>
        refine inv_executeDisplayCardEvent card ht.outstanding ?_
        rw [hmild.state]
        exact haccepted
      | none =>
        refine inv_giveUp ht ?_
        rintro hstate ⟨card,hlast,htemplate⟩
        rw [hmild.state] at hstate
        rw [hmild.last] at hlast
        exact hcard provider rfl hheeds hstate ⟨card,hlast,htemplate⟩ hcardOf
    · exact h.mild (mild_executeAudioPlayerInfoUpdates offset accepted hheeds)

omit [DecidableEq ρ] in
theorem mild_executeOnDialogUXStateChanged (s : Runtime ρ) (newState : DialogUXState) :
    Mild s (s.executeOnDialogUXStateChanged newState) := by
  unfold executeOnDialogUXStateChanged
  split
  · split
    · exact mild_executeStartTimer s _
    · exact mild_executeStopTimer s
    · exact mild_executeStopTimer s
    · exact Mild.refl s
  · exact Mild.refl s

theorem inv_perform {task : RuntimeTask ρ} (hpossible : Possible s task) (hallowed : Allowed s task) (h : Inv s) :
    Inv (s.perform task) := by
  cases task with
  | renderTemplate => exact inv_executeDisplayCardEvent _ h.outstanding hallowed
  | renderPlayerInfo payload content found offset =>
    exact inv_handleRenderPlayerInfo payload content found offset h hallowed
  | audioPlayerUpdate => exact inv_executeAudioPlayerInfoUpdates h hallowed
  | dialogUXStateChanged newState => exact h.mild (mild_executeOnDialogUXStateChanged s newState)
  | cardCleared => exact inv_executeCardClearedEvent h
  | timerExpires =>
    unfold perform
    dsimp only
    split
    · exact h.mild ⟨rfl,rfl,rfl,fun _ h => h⟩
    · exact h
    · exact h
  | timerEnds => exact h.mild ⟨rfl,rfl,rfl,fun _ h => h⟩
  | timerEvent =>
    have htaken : Inv {s with timerTasks := s.timerTasks.tail} := h.mild ⟨rfl,rfl,rfl,fun _ h => h⟩
    exact inv_executeTimerEvent htaken
  | acquired background =>
    refine inv_acquired ?_ h hallowed
    cases background <;> decide
  | released => exact inv_released h hpossible hallowed

omit [DecidableEq ρ] in
theorem executeDisplayCardEvent_last (s : Runtime ρ) (info : Directive) (accepted : Bool) :
    (s.executeDisplayCardEvent info accepted).lastDisplayedDirective=some info := by
  unfold executeDisplayCardEvent acquireChannel
  dsimp only
  split
  · split <;> rfl
  · rfl
  · exact (mild_executeDisplayCard _).last
  · rfl
  · rfl

omit [DecidableEq ρ] in
theorem executeTimerEvent_last (s : Runtime ρ) :
    s.executeTimerEvent.lastDisplayedDirective=s.lastDisplayedDirective := by
  unfold executeTimerEvent
  split
  · exact (mild_executeClearCard s).last
  all_goals rfl

omit [DecidableEq ρ] in
theorem onFocusGained_last (s : Runtime ρ) : s.onFocusGained.lastDisplayedDirective=s.lastDisplayedDirective := by
  unfold onFocusGained
  split
  · rfl
  · rfl
  · rfl
  · exact (mild_executeDisplayCard s).last
  · exact (mild_executeDisplayCard s).last

omit [DecidableEq ρ] in
theorem onFocusLost_last (s : Runtime ρ) (accepted : Bool) :
    (s.onFocusLost accepted).lastDisplayedDirective=s.lastDisplayedDirective := by
  unfold onFocusLost acquireChannel
  split
  · rfl
  · rfl
  · rfl
  · exact (mild_executeClearCard s).last
  · split <;> rfl

theorem perform_last (s : Runtime ρ) (task : RuntimeTask ρ) :
    (s.perform task).lastDisplayedDirective=(cardBrought s task).or s.lastDisplayedDirective := by
  cases task with
  | renderTemplate payload accepted => exact executeDisplayCardEvent_last _ _ accepted
  | renderPlayerInfo payload content found offset accepted =>
    cases content with
    | malformed => rfl
    | noAudioItemId => rfl
    | audioItem =>
      cases found with
      | none => rfl
      | some => exact executeDisplayCardEvent_last _ _ accepted
  | audioPlayerUpdate state mediaProperties audioItemId offset accepted =>
    change (s.executeAudioPlayerInfoUpdates state mediaProperties audioItemId offset accepted).lastDisplayedDirective=_
    cases mediaProperties with
    | none =>
      unfold executeAudioPlayerInfoUpdates
      split <;> rfl
    | some provider =>
      by_cases hheeds : Heeds s state provider audioItemId
      · obtain ⟨t,hmild,heq⟩ := executeAudioPlayerInfoUpdates_heeded offset accepted hheeds
        have hbrought : cardBrought s (.audioPlayerUpdate state (some provider) audioItemId offset accepted) =
            cardOf s provider audioItemId := if_pos hheeds
        rw [heq,hbrought]
        cases cardOf s provider audioItemId with
        | some card => exact executeDisplayCardEvent_last t card accepted
        | none =>
          have hlast : (giveUp t).lastDisplayedDirective=t.lastDisplayedDirective := by
            unfold giveUp
            split <;> rfl
          exact hlast.trans hmild.last
      · have hbrought : cardBrought s (.audioPlayerUpdate state (some provider) audioItemId offset accepted)=none :=
          if_neg hheeds
        rw [hbrought]
        exact (mild_executeAudioPlayerInfoUpdates offset accepted hheeds).last
  | dialogUXStateChanged newState => exact (mild_executeOnDialogUXStateChanged s newState).last
  | cardCleared =>
    change s.executeCardClearedEvent.lastDisplayedDirective=_
    unfold executeCardClearedEvent
    split <;> rfl
  | timerExpires =>
    unfold perform
    dsimp only
    split <;> rfl
  | timerEnds => rfl
  | timerEvent => exact executeTimerEvent_last _
  | acquired background =>
    cases background with
    | true | false => exact onFocusGained_last _
  | released accepted => exact onFocusLost_last _ accepted

def bring (newest : Runtime ρ × Option Directive) (task : RuntimeTask ρ) : Runtime ρ × Option Directive :=
  (newest.1.perform task,(cardBrought newest.1 task).or newest.2)

def newestCard (tasks : List (RuntimeTask ρ)) : Option Directive :=
  (tasks.foldl bring (create ρ,none)).2

theorem newestCard_eq {tasks : List (RuntimeTask ρ)} (run : Run Step (create ρ) tasks s) :
    newestCard tasks=s.lastDisplayedDirective := by
  have hfold : tasks.foldl bring (create ρ,none)=(s,s.lastDisplayedDirective) := by
    refine run.induct (fun tasks s => tasks.foldl bring (create ρ,none)=(s,s.lastDisplayedDirective)) rfl ?_
    rintro past s task _ hpast ⟨-,rfl⟩
    rw [foldl_concat,hpast,perform_last]
    rfl
  unfold newestCard
  rw [hfold]

/-- No card has to wait, and the newest was shown if it is a template card. -/
def NoCardLost (tasks : List (RuntimeTask ρ)) (s : Runtime ρ) : Prop :=
  (s.state=.idle ∨ s.state=.displaying) ∧
    ∀ card,newestCard tasks=some card → card.name=.renderTemplate → Rendered s card

/-- Over every run in which acquisitions are accepted, no update without a card comes to a template card that
waits, and no template card between an acquisition that was given up and its answer, no card is lost. -/
theorem no_card_lost {tasks : List (RuntimeTask ρ)} (run : Run (Guarded Step Allowed) (create ρ) tasks s)
    (rests : s.requests=[]) : NoCardLost tasks s := by
  have hinv : Inv s := by
    refine run.invariant Inv ⟨rfl,?_⟩ ?_
    · exact nofun
    · rintro s task _ hs ⟨hallowed,hpossible,rfl⟩
      exact inv_perform hpossible hallowed hs
  have hstate : s.state=.idle ∨ s.state=.displaying := hinv.outstanding.at_rest rests
  refine ⟨hstate,?_⟩
  intro card hnewest htemplate
  rw [newestCard_eq run.forget] at hnewest
  obtain hshown|hwaits|hwaits := hinv.rendered card hnewest htemplate
  · exact hshown
  · rw [hwaits] at hstate
    exact absurd hstate (by decide)
  · rw [hwaits] at hstate
    exact absurd hstate (by decide)

/-- A card before the release of a cleared one: it is acquired again. -/
theorem no_card_lost_reacquired : ∃ tasks s,Run (Guarded Step Allowed) (create ℕ) tasks s ∧ s.requests=[] ∧
      newestCard tasks=some ⟨1,.renderTemplate,"second"⟩ ∧ NoCardLost tasks s := by
  have run := (@Run.refl _ _ (Guarded Step Allowed) (create ℕ)).allow
    (step_perform (.renderTemplate "first" true) trivial) fun _ => rfl
  have run := run.allow (step_perform (.acquired false) rfl) (by intro h; cases h)
  have run := run.allow (step_perform .cardCleared trivial) trivial
  have run := run.allow (step_perform (.renderTemplate "second" true) trivial) fun _ => rfl
  have run := run.allow (step_perform (.released true) rfl) fun _ => rfl
  have run := run.allow (step_perform (.acquired true) rfl) (by intro h; cases h)
  exact ⟨_,_,run,rfl,rfl,no_card_lost run rfl⟩

/-- The late answer is taken for that of the second card, which is never shown. -/
theorem given_up_acquisition_loses_card :
    ¬∀ tasks s,Run Step (create ℕ) tasks s → s.requests=[] → NoCardLost tasks s := by
  intro hall
  have run := (@Run.refl _ _ Step (create ℕ)).snoc (step_perform (.renderTemplate "first" true) trivial)
  have run := run.snoc (step_perform (.audioPlayerUpdate .playing (some 0) "item" 0 true) trivial)
  have run := run.snoc (step_perform (.renderTemplate "second" true) trivial)
  have run := run.snoc (step_perform (.acquired false) rfl)
  have run := run.snoc (step_perform (.released true) rfl)
  obtain ⟨focus,hshown⟩ := (hall _ _ run rfl).2 ⟨1,.renderTemplate,"second"⟩ rfl rfl
  cases hshown

end AlexaClientSDK.DisplayCards
