import AlexaClientSDK.SuccessNotices

/-!
# The reports for the changes that the service asks for

A change that comes from the service is to be answered with a `Report` event, also when nothing changes or the change
fails. What is sent depends on the status when the executor comes to synchronize. A change for which a request is
pending already is accepted without one of its own.
-/

namespace AlexaClientSDK.AvsReports

open Option List LabelledRuns PendingRequests LastLocales
open SuccessNotices (ofExecutor)
open LocaleWakeWordsSetting hiding Event Possible Step step_next
open LocaleWakeWordsSetting.Setting Setting

variable {assets : AssetsManager} {request : RequestParameters}

inductive Kind
  | locales
  | wakeWords
deriving DecidableEq

def status (s : Setting) : Kind → SettingStatus
  | .locales => s.localeStatus
  | .wakeWords => s.wakeWordsStatus

def typeOf (request : RequestParameters) : Kind → RequestType
  | .locales => request.localeRequestType
  | .wakeWords => request.wakeWordsRequestType

structure Attempt where
  kind : Kind
  status : SettingStatus
  /-- The request that the executor is about, if any. -/
  request : Option RequestParameters

/-- `sendEvent` sends a `Report`. -/
def isReport : SettingStatus → Bool
  | .AVS_CHANGE_IN_PROGRESS => true
  | .LOCAL_CHANGE_IN_PROGRESS | .NOT_AVAILABLE | .SYNCHRONIZED => false

/-- The calls of `sendEvent` in a step. -/
def attempted (s : Setting) : LocaleWakeWordsSetting.Event → List Attempt
  | .proceed (.checkingWakeWords request change) _ =>
    if s.wakeWordsStatus=.SYNCHRONIZED then []
    else [⟨.wakeWords,s.wakeWordsStatus,if change then some request else none⟩]
  | .proceed (.checkingLocale request change) _ =>
    if s.localeStatus=.SYNCHRONIZED then []
    else [⟨.locales,s.localeStatus,if change then some request else none⟩]
  | _ => []

structure Reporting where
  setting : Setting
  /-- The calls of `sendEvent`. -/
  attempts : List Attempt

def Reporting.next (assets : AssetsManager) (s : Reporting) (event : LocaleWakeWordsSetting.Event) : Reporting where
  setting := s.setting.next assets event
  attempts := s.attempts++attempted s.setting event

section

variable (assets)

def Step (s : Reporting) (event : LocaleWakeWordsSetting.Event) (t : Reporting) : Prop :=
  LocaleWakeWordsSetting.Possible s.setting event ∧ t=s.next assets event

theorem step_next (s : Reporting) (event : LocaleWakeWordsSetting.Event)
    (hpossible : decide (LocaleWakeWordsSetting.Possible s.setting event)=true) :
    Step assets s event (s.next assets event) := ⟨of_decide_eq_true hpossible,rfl⟩

inductive Change
  | locales (locales : DeviceLocales)
  | wakeWords (wakeWords : WakeWords)

def Change.kind : Change → Kind
  | .locales _ => .locales
  | .wakeWords _ => .wakeWords

section

variable (request)

def Change.isOf : Change → Bool
  | .locales asked => request.locales == asked
  | .wakeWords asked => request.wakeWords == asked

def returnValueFromSetSettingResult : SetSettingResult → Bool
  | .NO_CHANGE | .ENQUEUED => true
  | .INVALID_VALUE => false

def setAvsChange (s : Setting) (change : Change) : Setting × Bool :=
  let result :=
    match change with
    | .locales locales => s.setLocales assets locales .AVS
    | .wakeWords wakeWords => s.setWakeWords assets wakeWords .AVS
  (result.1,returnValueFromSetSettingResult result.2)

/-- No call replaces the request while it is pending. -/
def Unsuperseded (s : Reporting) (event : LocaleWakeWordsSetting.Event) : Prop :=
  s.setting.pendingRequest=some request → ofExecutor event=false →
    (s.setting.next assets event).pendingRequest=some request

end

/-- It is not finished without a report, if no other replaces it. -/
def Answered (s : Setting) (kind : Kind) : Prop :=
  ∃ request,s.pendingRequest=some request ∧
    ∀ trace u,Run (Guarded (Step assets) (Unsuperseded assets request)) ⟨s,[]⟩ trace u → Drained u.setting →
      ∃ attempt∈u.attempts,attempt.kind=kind ∧ isReport attempt.status=true ∧ attempt.request=some request

end

/-- How far a request has come. -/
inductive Stage
  /-- It waits, or is being applied. -/
  | applying
  | reporting
  | past
deriving DecidableEq

/-- How far the request that the executor is about has come. -/
def stage (kind : Kind) : Running → Stage
  | .initializing _ _ | .changing _ _ _ | .storing _ => .applying
  | .reverting _ | .failing _ | .checkingWakeWords _ _ => .reporting
  | .sendingWakeWords _ _ | .checkingLocale _ _ => if kind=.locales then .reporting else .past
  | .sendingLocale _ _ | .clearing _ => .past

/-- How far a pending request has come. -/
def stageOf (kind : Kind) (s : Setting) (request : RequestParameters) : Stage :=
  (s.running.filter fun running => requestNow running=some request).elim .applying (stage kind)

/-- The request is sure to make a report: the status asks for one and will not become that of a local change. -/
structure Due (kind : Kind) (s : Setting) (request : RequestParameters) : Prop where
  ahead : stageOf kind s request≠.past
  asks : status s kind=.AVS_CHANGE_IN_PROGRESS
  keeps : stageOf kind s request=.applying → typeOf request kind≠.LOCAL

instance (kind : Kind) (s : Setting) (request : RequestParameters) : Decidable (Due kind s request) :=
  decidable_of_iff (stageOf kind s request≠.past ∧ status s kind=.AVS_CHANGE_IN_PROGRESS ∧
      (stageOf kind s request=.applying → typeOf request kind≠.LOCAL))
    ⟨fun h => ⟨h.1,h.2.1,h.2.2⟩,fun h => ⟨h.ahead,h.asks,h.keeps⟩⟩

variable {s t : Setting} {kind : Kind}

def numberedWork : Work → Option RequestParameters
  | .change request | .synchronize request => some request
  | .restore _ _ => none

def numberedRunning : Running → Option RequestParameters
  | .changing request _ _ | .storing request | .reverting request | .failing request | .clearing request
  | .checkingWakeWords request _ | .sendingWakeWords request _ | .checkingLocale request _
  | .sendingLocale request _ => some request
  | .initializing _ _ => none

/-- The requests of all that is not finished, oldest first. -/
def numbered (s : Setting) : List RequestParameters :=
  (s.running.bind numberedRunning).toList++s.executor.filterMap numberedWork

/-- The numbers grow, and none is used again. -/
structure Numbered (s : Setting) : Prop where
  ids : (numbered s).Pairwise fun first second => first.id<second.id
  counter : ∀ request∈numbered s,request.id ≤ s.requestCounter

theorem Numbered.sublist (h : Numbered s) (hsublist : (numbered t).Sublist (numbered s))
    (hcounter : t.requestCounter=s.requestCounter) : Numbered t where
  ids := h.ids.sublist hsublist
  counter other hother := by
    rw [hcounter]
    exact h.counter other (hsublist.subset hother)

theorem Numbered.snoc (h : Numbered s) {last : RequestParameters} (hnumbered : numbered t=numbered s++[last])
    (hlast : last.id=s.requestCounter+1) (hcounter : t.requestCounter=s.requestCounter+1) : Numbered t := by
  refine ⟨?_,fun other hother => ?_⟩
  · rw [hnumbered]
    refine pairwise_append.mpr ⟨h.ids,pairwise_singleton _ _,fun other hother new hnew => ?_⟩
    have hold := h.counter other hother
    rw [mem_singleton.mp hnew]
    omega
  · rw [hnumbered] at hother
    rw [hcounter]
    obtain hold|hnew := mem_append.mp hother
    · exact (h.counter other hold).trans (Nat.le_succ _)
    · rw [mem_singleton.mp hnew]
      omega

theorem Numbered.submit (h : Numbered s) (localeRequestType : RequestType) (locales : DeviceLocales)
    (wakeWordsRequestType : RequestType) (wakeWords : WakeWords) :
    Numbered (s.submit localeRequestType locales wakeWordsRequestType wakeWords) := by
  have hnumbered : numbered (s.submit localeRequestType locales wakeWordsRequestType wakeWords) =
      numbered s++[⟨s.requestCounter+1,localeRequestType,locales,wakeWordsRequestType,wakeWords⟩] := by
    unfold numbered Setting.submit
    rw [filterMap_append,append_assoc]
    rfl
  exact h.snoc hnumbered rfl rfl

theorem numbered_begin {work : Work} (hidle : s.running=none) (hhead : s.executor.head?=some work) :
    (numbered ({s with executor := s.executor.tail}.begin work)).Sublist (numbered s) ∧
      ({s with executor := s.executor.tail}.begin work).requestCounter=s.requestCounter := by
  obtain ⟨rest,hexecutor⟩ := List.head?_eq_some_iff.mp hhead
  unfold numbered
  rw [hidle,hexecutor,tail_cons]
  cases work with
  | change =>
    unfold begin
    dsimp only
    split
    · exact ⟨List.Sublist.refl _,rfl⟩
    · exact ⟨sublist_cons_self _ _,rfl⟩
  | restore | synchronize => exact ⟨List.Sublist.refl _,rfl⟩

variable {running : Running}

theorem numbered_proceed (hrunning : s.running=some running) (ok : Bool) :
    (numbered (s.proceed ok running)).Sublist (numbered s) ∧ (s.proceed ok running).requestCounter=s.requestCounter := by
  have hgoesOn : ∀ {after : Running} {t : Setting},t.running=some after →
      numberedRunning after=numberedRunning running → t.executor=s.executor → (numbered t).Sublist (numbered s) := by
    intro after t hafter hsame hexecutor
    unfold numbered
    rw [hafter,hrunning,hexecutor,bind_some,bind_some,hsame]
  have hends : ∀ {t : Setting},t.running=none → t.executor=s.executor → (numbered t).Sublist (numbered s) := by
    intro t hnone hexecutor
    unfold numbered
    rw [hnone,hexecutor]
    exact sublist_append_right _ _
  cases running with
  | initializing | clearing => exact ⟨hends rfl rfl,rfl⟩
  | changing =>
    cases ok with
    | true | false => exact ⟨hgoesOn rfl rfl rfl,rfl⟩
  | storing request =>
    obtain ⟨hexecutor,-,hcounter,-⟩ := storeValues_frame s request ok
    unfold proceed
    dsimp only
    split
    · exact ⟨hgoesOn rfl rfl hexecutor,hcounter⟩
    · exact ⟨hgoesOn rfl rfl hexecutor,hcounter⟩
  | reverting | sendingWakeWords => exact ⟨hgoesOn rfl rfl rfl,rfl⟩
  | failing | checkingWakeWords =>
    unfold proceed
    dsimp only
    split
    · exact ⟨hgoesOn rfl rfl rfl,rfl⟩
    · exact ⟨hgoesOn rfl rfl rfl,rfl⟩
  | checkingLocale request change =>
    unfold proceed
    dsimp only
    split
    · cases change with
      | true => exact ⟨hgoesOn rfl rfl rfl,rfl⟩
      | false => exact ⟨hends rfl rfl,rfl⟩
    · exact ⟨hgoesOn rfl rfl rfl,rfl⟩
  | sendingLocale request change =>
    cases change with
    | true => exact ⟨hgoesOn rfl rfl rfl,rfl⟩
    | false => exact ⟨hends rfl rfl,rfl⟩

theorem numbered_step {event : LocaleWakeWordsSetting.Event} (h : Numbered s)
    (hstep : LocaleWakeWordsSetting.Step assets s event t) : Numbered t := by
  have hlocales : ∀ locales requestType,Numbered (s.setLocales assets locales requestType).1 := by
    intro locales requestType
    obtain ⟨heq,-⟩|⟨heq,-⟩|⟨status,heq,-⟩ := setLocales_cases assets s locales requestType
    · rw [heq]
      exact h
    · rw [heq]
      exact ⟨h.ids,h.counter⟩
    · rw [heq]
      have hsame : Numbered {s with localeStatus := status,accepted := some locales} := ⟨h.ids,h.counter⟩
      exact hsame.submit ..
  have hwakeWords : ∀ wakeWords requestType,Numbered (s.setWakeWords assets wakeWords requestType).1 := by
    intro wakeWords requestType
    obtain heq|⟨status,heq,-⟩ := setWakeWords_cases assets s wakeWords requestType
    · rw [heq]
      exact h
    · rw [heq]
      have hsame : Numbered {s with wakeWordsStatus := status} := ⟨h.ids,h.counter⟩
      exact hsame.submit ..
  obtain ⟨hpossible,rfl⟩ := hstep
  cases event with
  | setLocalLocales locales => exact hlocales locales .LOCAL
  | setAvsLocales locales => exact hlocales locales .AVS
  | setLocalWakeWords wakeWords => exact hwakeWords wakeWords .LOCAL
  | setAvsWakeWords wakeWords => exact hwakeWords wakeWords .AVS
  | connected =>
    have hnumbered : numbered s.onConnected=numbered s++[⟨s.requestCounter+1,.NONE,[],.NONE,∅⟩] := by
      unfold numbered onConnected
      rw [filterMap_append,append_assoc]
      rfl
    exact h.snoc hnumbered rfl rfl
  | begin =>
    obtain ⟨hsublist,hcounter⟩ := numbered_begin hpossible.1 hpossible.2
    exact h.sublist hsublist hcounter
  | proceed running ok =>
    obtain ⟨hsublist,hcounter⟩ := numbered_proceed hpossible ok
    exact h.sublist hsublist hcounter

theorem numbered_create (assets : AssetsManager) (storage : Storage) : Numbered (create assets storage) := by
  have hnone : ∀ s : Setting,numbered s=[] → Numbered s := by
    intro s hempty
    refine ⟨?_,fun other hother => ?_⟩
    · rw [hempty]
      exact List.Pairwise.nil
    · rw [hempty] at hother
      cases hother
  unfold create
  dsimp only
  split
  · exact (hnone _ rfl).submit ..
  · exact hnone _ rfl

/-- How far the request has come that the executor is about. -/
theorem stageOf_now (hrunning : s.running=some running) (hnow : requestNow running=some request) :
    stageOf kind s request=stage kind running := by
  unfold stageOf
  rw [hrunning,filter_some,if_pos (decide_eq_true hnow)]
  rfl

theorem stageOf_waiting (hwaiting : ∀ running,s.running=some running → requestNow running≠some request) :
    stageOf kind s request=.applying := by
  unfold stageOf
  cases hrunning : s.running with
  | none => rfl
  | some running =>
    rw [filter_some,if_neg (by rw [decide_eq_true_eq]; exact hwaiting running hrunning)]
    rfl

theorem due_same (hstage : stageOf kind t request=stageOf kind s request) (hstatus : status t kind=status s kind) :
    Due kind t request ↔ Due kind s request := by
  constructor
  · exact fun h => ⟨hstage ▸ h.ahead,hstatus.symm.trans h.asks,hstage ▸ h.keeps⟩
  · exact fun h => ⟨hstage.symm ▸ h.ahead,hstatus.trans h.asks,hstage.symm ▸ h.keeps⟩

theorem not_due_past (hstage : stageOf kind s request=.past) : ¬Due kind s request := fun h => h.ahead hstage

/-- What always holds while a request is pending. -/
structure Busy (s : Setting) (request : RequestParameters) : Prop where
  queued : Queued s
  numbers : Numbered s
  pending : s.pendingRequest=some request

theorem Busy.latest (h : Busy s request) : s.isLatestRequestLocked request=true := by
  unfold isLatestRequestLocked
  rw [h.pending,all_some,beq_self_eq_true]

theorem numberedWork_of_requestOf {work : Work} (hwork : requestOf work=some request) :
    numberedWork work=some request := by
  cases work with
  | change => exact hwork
  | restore => cases hwork
  | synchronize => cases hwork

theorem Busy.outdated (h : Busy s request) (hrunning : s.running=some running)
    (hother : requestNow running≠some request) {old : RequestParameters} (hold : numberedRunning running=some old) :
    s.isLatestRequestLocked old=false := by
  have hmem : request∈s.executor.filterMap requestOf := by
    have hlast := mem_of_getLast? (h.queued.pending.symm.trans h.pending)
    rw [changes_eq hrunning] at hlast
    obtain hnow|hwaits := mem_append.mp hlast
    · exact (hother (mem_toList.mp hnow)).elim
    · exact hwaits
  obtain ⟨work,hwork,hrequest⟩ := mem_filterMap.mp hmem
  have hids := h.numbers.ids
  unfold AvsReports.numbered at hids
  rw [hrunning,bind_some,hold] at hids
  have hlt := rel_of_pairwise_cons hids (mem_filterMap.mpr ⟨work,hwork,numberedWork_of_requestOf hrequest⟩)
  unfold isLatestRequestLocked
  rw [h.pending,all_some]
  exact beq_false_of_ne (Nat.ne_of_gt hlt)

/-- It goes on with an old one, and changes no status. -/
theorem proceed_outdated
    (holds : ∀ old,numberedRunning running=some old → s.isLatestRequestLocked old=false) (ok : Bool) :
    (s.proceed ok running).localeStatus=s.localeStatus ∧ (s.proceed ok running).wakeWordsStatus=s.wakeWordsStatus ∧
      (s.proceed ok running).pendingRequest=s.pendingRequest ∧
      ∀ after,(s.proceed ok running).running=some after → requestNow after=requestNow running := by
  cases running with
  | initializing => exact ⟨rfl,rfl,rfl,fun after hafter => by cases hafter⟩
  | changing =>
    refine ⟨rfl,rfl,rfl,fun after hafter => ?_⟩
    obtain rfl := some.inj hafter
    cases ok <;> rfl
  | storing old =>
    have hskipped := SuccessNotices.storeValues_superseded (Bool.eq_false_iff.mp (holds old rfl)) ok
    unfold proceed
    dsimp only
    rw [hskipped]
    refine ⟨rfl,rfl,rfl,fun after hafter => ?_⟩
    obtain rfl := some.inj hafter
    rfl
  | reverting =>
    refine ⟨rfl,rfl,rfl,fun after hafter => ?_⟩
    obtain rfl := some.inj hafter
    rfl
  | failing old =>
    have hold := holds old rfl
    unfold proceed
    dsimp only
    rw [hold]
    refine ⟨rfl,rfl,rfl,fun after hafter => ?_⟩
    obtain rfl := some.inj hafter
    rfl
  | checkingWakeWords =>
    refine ⟨rfl,rfl,rfl,fun after hafter => ?_⟩
    obtain rfl := some.inj hafter
    split <;> rfl
  | sendingWakeWords old =>
    have hold := holds old rfl
    unfold proceed
    dsimp only
    rw [hold,Bool.and_false]
    refine ⟨rfl,rfl,rfl,fun after hafter => ?_⟩
    obtain rfl := some.inj hafter
    rfl
  | checkingLocale =>
    refine ⟨rfl,rfl,rfl,fun after hafter => ?_⟩
    unfold proceed at hafter
    dsimp only at hafter
    split at hafter
    · split at hafter
      next hchange =>
        obtain rfl := some.inj hafter
        rw [hchange]
        rfl
      · cases hafter
    · obtain rfl := some.inj hafter
      rfl
  | sendingLocale old =>
    have hold := holds old rfl
    unfold proceed
    dsimp only
    rw [hold,Bool.and_false]
    refine ⟨rfl,rfl,rfl,fun after hafter => ?_⟩
    split at hafter
    next hchange =>
      obtain rfl := some.inj hafter
      rw [hchange]
      rfl
    · cases hafter
  | clearing old =>
    have hold := holds old rfl
    unfold proceed
    dsimp only
    rw [hold]
    exact ⟨rfl,rfl,rfl,fun after hafter => by cases hafter⟩

theorem Busy.due_elsewhere (h : Busy s request) (hrunning : s.running=some running)
    (hother : requestNow running≠some request) (ok : Bool) : (s.proceed ok running).pendingRequest=some request ∧
      (Due kind (s.proceed ok running) request ↔ Due kind s request) := by
  obtain ⟨hlocale,hwakeWords,hpending,hnow⟩ := proceed_outdated (fun _ => h.outdated hrunning hother) ok
  refine ⟨hpending.trans h.pending,due_same ?_ ?_⟩
  · rw [stageOf_waiting fun after hafter hsome => hother ((hnow after hafter).symm.trans hsome),
      stageOf_waiting fun now hnow' hsome => by
        obtain rfl := some.inj (hnow'.symm.trans hrunning)
        exact hother hsome]
  · cases kind with
    | locales => exact hlocale
    | wakeWords => exact hwakeWords

/-- What the executor does here decides whether the request makes a report. -/
def decides (kind : Kind) : Running → Bool
  | .changing _ _ _ | .storing _ | .clearing _ => true
  | .checkingWakeWords _ _ => kind=.wakeWords
  | .checkingLocale _ _ => kind=.locales
  | .initializing _ _ | .reverting _ | .failing _ | .sendingWakeWords _ _ | .sendingLocale _ _ => false

theorem change_of_requestNow {other : RequestParameters} {change : Bool}
    (hnow : (if change then some other else none)=some request) : change=true ∧ other=request := by
  cases change with
  | true => exact ⟨rfl,some.inj hnow⟩
  | false => cases hnow

theorem Busy.due_frame (h : Busy s request) (hrunning : s.running=some running)
    (hnow : requestNow running=some request) (hdecides : decides kind running=false) (ok : Bool) :
    (s.proceed ok running).pendingRequest=some request ∧
      (Due kind (s.proceed ok running) request ↔ Due kind s request) := by
  have hstage := @stageOf_now _ _ kind _ hrunning hnow
  cases running with
  | initializing => cases hnow
  | changing | storing | clearing => cases hdecides
  | reverting other =>
    have hafter : (s.proceed ok (.reverting other)).running=some (.failing other) := rfl
    exact ⟨h.pending,due_same ((stageOf_now hafter hnow).trans hstage.symm) (by cases kind <;> rfl)⟩
  | failing other =>
    obtain rfl := some.inj hnow
    have hafter : (s.proceed ok (.failing other)).running=some (.checkingWakeWords other true) := by
      unfold proceed
      dsimp only
      rw [h.latest]
      rfl
    exact ⟨h.pending,due_same ((stageOf_now hafter rfl).trans hstage.symm) (by cases kind <;> rfl)⟩
  | checkingWakeWords other =>
    obtain ⟨rfl,rfl⟩ := change_of_requestNow hnow
    cases kind with
    | wakeWords => cases hdecides
    | locales =>
      have hafter : (s.proceed ok (.checkingWakeWords other true)).running =
          some (if s.wakeWordsStatus=.SYNCHRONIZED then .checkingLocale other true else .sendingWakeWords other true) := rfl
      refine ⟨h.pending,due_same ?_ rfl⟩
      rw [hstage]
      split at hafter
      · exact (stageOf_now hafter rfl).trans rfl
      · exact (stageOf_now hafter rfl).trans rfl
  | sendingWakeWords other =>
    obtain ⟨rfl,rfl⟩ := change_of_requestNow hnow
    have hafter : (s.proceed ok (.sendingWakeWords other true)).running=some (.checkingLocale other true) := rfl
    have hafterStage := @stageOf_now _ _ kind _ hafter hnow
    cases kind with
    | locales => exact ⟨h.pending,due_same (hafterStage.trans hstage.symm) rfl⟩
    | wakeWords => exact ⟨h.pending,iff_of_false (not_due_past hafterStage) (not_due_past hstage)⟩
  | checkingLocale other =>
    obtain ⟨rfl,rfl⟩ := change_of_requestNow hnow
    cases kind with
    | locales => cases hdecides
    | wakeWords =>
      have hafter : (s.proceed ok (.checkingLocale other true)).running =
          if s.localeStatus=.SYNCHRONIZED then some (.clearing other) else some (.sendingLocale other true) := rfl
      refine ⟨h.pending,iff_of_false (not_due_past ?_) (not_due_past hstage)⟩
      split at hafter
      · exact stageOf_now hafter rfl
      · exact stageOf_now hafter rfl
  | sendingLocale other =>
    obtain ⟨rfl,rfl⟩ := change_of_requestNow hnow
    have hafter : (s.proceed ok (.sendingLocale other true)).running=some (.clearing other) := rfl
    exact ⟨h.pending,iff_of_false (not_due_past (stageOf_now hafter rfl)) (not_due_past hstage)⟩

end AlexaClientSDK.AvsReports
