import AlexaClientSDK.AvsReports

/-!
# Which changes are answered

A request that is due makes a report before the executor has nothing left to do, whatever the others answer; one that is
not due makes none with some answers. A change from the service with a request of its own is due. One accepted because
the pending request has its value depends on that request.
-/

namespace AlexaClientSDK.AvsReports

open Option List LabelledRuns PendingRequests LastLocales
open SuccessNotices (ofExecutor)
open LocaleWakeWordsSetting hiding Event Possible Step step_next
open LocaleWakeWordsSetting.Setting

variable {assets : AssetsManager} {request : RequestParameters} {s t : Setting} {kind : Kind}

def IsReportOf (kind : Kind) (request : RequestParameters) (attempt : Attempt) : Prop :=
  attempt.kind=kind ∧ isReport attempt.status=true ∧ attempt.request=some request

theorem status_storeValues (kind : Kind) (hlatest : s.isLatestRequestLocked request=true)
    (htypes : request.localeRequestType≠.NONE ∨ request.wakeWordsRequestType≠.NONE) :
    status (s.storeValues request true).1 kind=statusFor (typeOf request kind) (status s kind) := by
  unfold storeValues
  rw [if_pos hlatest,if_pos htypes,if_pos rfl]
  cases kind <;> rfl

theorem storeValues_nothing (hlatest : s.isLatestRequestLocked request=true)
    (htypes : ¬(request.localeRequestType≠.NONE ∨ request.wakeWordsRequestType≠.NONE)) (ok : Bool) :
    s.storeValues request ok=(s,true) := by
  unfold storeValues
  rw [if_pos hlatest,if_neg htypes]

theorem storeValues_refused (hlatest : s.isLatestRequestLocked request=true)
    (htypes : request.localeRequestType≠.NONE ∨ request.wakeWordsRequestType≠.NONE) :
    s.storeValues request false=(s,false) := by
  unfold storeValues
  rw [if_pos hlatest,if_pos htypes,if_neg Bool.false_ne_true]

variable {running : Running}

section

variable (hrunning : t.running=some running) (hnow : requestNow running=some request)
include hrunning hnow

theorem due_reporting (hstage : stage kind running=.reporting) :
    Due kind t request ↔ status t kind=.AVS_CHANGE_IN_PROGRESS := by
  have hreporting : stageOf kind t request=.reporting := (stageOf_now hrunning hnow).trans hstage
  constructor
  · exact fun h => h.asks
  · refine fun hasks => ⟨?_,hasks,fun happlying => ?_⟩
    · rw [hreporting]
      exact nofun
    · cases hreporting.symm.trans happlying

theorem due_applying (hstage : stage kind running=.applying) :
    Due kind t request ↔ status t kind=.AVS_CHANGE_IN_PROGRESS ∧ typeOf request kind≠.LOCAL := by
  have happlying : stageOf kind t request=.applying := (stageOf_now hrunning hnow).trans hstage
  constructor
  · exact fun h => ⟨h.asks,h.keeps happlying⟩
  · refine fun h => ⟨?_,h.1,fun _ => h.2⟩
    rw [happlying]
    exact nofun

end

theorem running_storing (s : Setting) (request : RequestParameters) (ok : Bool) :
    (s.proceed ok (.storing request)).running =
      some (if (s.storeValues request ok).2 then .checkingWakeWords request true else .reverting request) := rfl

theorem status_storing (s : Setting) (request : RequestParameters) (ok : Bool) (kind : Kind) :
    status (s.proceed ok (.storing request)) kind=status (s.storeValues request ok).1 kind := by
  cases kind <;> rfl

theorem Busy.due_storing (h : Busy s request) (hrunning : s.running=some (.storing request))
    (hdue : Due kind s request) (ok : Bool) : Due kind (s.proceed ok (.storing request)) request := by
  obtain ⟨hasks,htype⟩ := (due_applying hrunning rfl rfl).mp hdue
  have hafter := running_storing s request ok
  have hstatus := status_storing s request ok kind
  by_cases htypes : request.localeRequestType≠.NONE ∨ request.wakeWordsRequestType≠.NONE
  · cases ok with
    | true =>
      have hok : (s.storeValues request true).2=true := by
        unfold storeValues
        rw [if_pos h.latest,if_pos htypes,if_pos rfl]
      rw [hok,if_pos rfl] at hafter
      refine (due_reporting hafter rfl rfl).mpr ?_
      rw [hstatus,status_storeValues kind h.latest htypes,hasks]
      cases hkind : typeOf request kind with
      | LOCAL => exact (htype hkind).elim
      | AVS => rfl
      | NONE => rfl
    | false =>
      rw [storeValues_refused h.latest htypes] at hafter hstatus
      exact (due_reporting hafter rfl rfl).mpr (hstatus.trans hasks)
  · rw [storeValues_nothing h.latest htypes] at hafter hstatus
    exact (due_reporting hafter rfl rfl).mpr (hstatus.trans hasks)

theorem Busy.due_now (h : Busy s request) (hrunning : s.running=some running)
    (hnow : requestNow running=some request) (hdue : Due kind s request) (ok : Bool) :
    (∃ attempt∈attempted s (.proceed running ok),IsReportOf kind request attempt) ∨
      (s.proceed ok running).pendingRequest=some request ∧ Due kind (s.proceed ok running) request := by
  cases hdecides : decides kind running with
  | false =>
    obtain ⟨hpending,hiff⟩ := h.due_frame hrunning hnow hdecides ok
    exact .inr ⟨hpending,hiff.mpr hdue⟩
  | true =>
    cases running with
    | changing other locales wakeWords =>
      obtain rfl := some.inj hnow
      obtain ⟨hasks,htype⟩ := (due_applying hrunning rfl rfl).mp hdue
      refine .inr ⟨h.pending,?_⟩
      cases ok with
      | true =>
        have hafter : (s.proceed true (.changing other locales wakeWords)).running=some (.storing other) := rfl
        exact (due_applying hafter rfl rfl).mpr ⟨by cases kind <;> exact hasks,htype⟩
      | false =>
        have hafter : (s.proceed false (.changing other locales wakeWords)).running=some (.failing other) := rfl
        exact (due_reporting hafter rfl rfl).mpr (by cases kind <;> exact hasks)
    | storing other =>
      obtain rfl := some.inj hnow
      have hpending := (storeValues_frame s other ok).2.1
      exact .inr ⟨hpending.trans h.pending,h.due_storing hrunning hdue ok⟩
    | clearing other => exact (not_due_past ((stageOf_now hrunning hnow).trans rfl) hdue).elim
    | checkingWakeWords other change =>
      obtain ⟨rfl,rfl⟩ := change_of_requestNow hnow
      cases kind with
      | locales => cases hdecides
      | wakeWords =>
        have hasks : s.wakeWordsStatus=.AVS_CHANGE_IN_PROGRESS := hdue.asks
        refine .inl ⟨⟨.wakeWords,s.wakeWordsStatus,some other⟩,?_,rfl,?_,rfl⟩
        · unfold attempted
          rw [hasks]
          exact mem_singleton_self _
        · rw [hasks]
          rfl
    | checkingLocale other change =>
      obtain ⟨rfl,rfl⟩ := change_of_requestNow hnow
      cases kind with
      | wakeWords => cases hdecides
      | locales =>
        have hasks : s.localeStatus=.AVS_CHANGE_IN_PROGRESS := hdue.asks
        refine .inl ⟨⟨.locales,s.localeStatus,some other⟩,?_,rfl,?_,rfl⟩
        · unfold attempted
          rw [hasks]
          exact mem_singleton_self _
        · rw [hasks]
          rfl
    | initializing | reverting | failing | sendingWakeWords | sendingLocale => cases hdecides

/-- What a call of `sendEvent` in the step is about. -/
theorem now_of_attempted {ok : Bool} {attempt : Attempt} (hmem : attempt∈attempted s (.proceed running ok)) :
    attempt.request=requestNow running ∧ stage attempt.kind running=.reporting ∧
      attempt.status=status s attempt.kind := by
  cases running with
  | checkingWakeWords other change =>
    have hwhat : attempted s (.proceed (.checkingWakeWords other change) ok) =
        if s.wakeWordsStatus=.SYNCHRONIZED then []
        else [⟨.wakeWords,s.wakeWordsStatus,if change then some other else none⟩] := rfl
    rw [hwhat] at hmem
    split at hmem
    · cases hmem
    · rw [mem_singleton.mp hmem]
      exact ⟨rfl,rfl,rfl⟩
  | checkingLocale other change =>
    have hwhat : attempted s (.proceed (.checkingLocale other change) ok) =
        if s.localeStatus=.SYNCHRONIZED then [] else [⟨.locales,s.localeStatus,if change then some other else none⟩] := rfl
    rw [hwhat] at hmem
    split at hmem
    · cases hmem
    · rw [mem_singleton.mp hmem]
      exact ⟨rfl,rfl,rfl⟩
  | initializing | changing | storing | reverting | failing | sendingWakeWords | sendingLocale | clearing => cases hmem

theorem due_of_attempted {ok : Bool} {attempt : Attempt} (hrunning : s.running=some running)
    (hmem : attempt∈attempted s (.proceed running ok)) (hreport : IsReportOf kind request attempt) :
    requestNow running=some request ∧ Due kind s request := by
  obtain ⟨hrequest,hstage,hstatus⟩ := now_of_attempted hmem
  obtain ⟨rfl,hasks,hself⟩ := hreport
  have hnow := hrequest.symm.trans hself
  refine ⟨hnow,(due_reporting hrunning hnow hstage).mpr ?_⟩
  rw [←hstatus]
  revert hasks
  cases attempt.status with
  | AVS_CHANGE_IN_PROGRESS => exact fun _ => rfl
  | LOCAL_CHANGE_IN_PROGRESS | NOT_AVAILABLE | SYNCHRONIZED => exact nofun

variable {work : Work}

section

variable (h : Busy s request)
include h

theorem Busy.due_begin (hidle : s.running=none) :
    ({s with executor := s.executor.tail}.begin work).pendingRequest=some request ∧
      (Due kind ({s with executor := s.executor.tail}.begin work) request ↔ Due kind s request) := by
  have hbefore : stageOf kind s request=.applying := stageOf_waiting fun _ hrunning => by cases hidle.symm.trans hrunning
  cases work with
  | change =>
    unfold Setting.begin
    dsimp only
    split
    · refine ⟨h.pending,due_same ?_ (by cases kind <;> rfl)⟩
      rw [hbefore]
      unfold stageOf
      rw [filter_some]
      split <;> rfl
    · refine ⟨h.pending,due_same ?_ (by cases kind <;> rfl)⟩
      rw [hbefore]
      exact stageOf_waiting fun _ hrunning => by cases hidle.symm.trans hrunning
  | restore | synchronize =>
    refine ⟨h.pending,due_same ?_ (by cases kind <;> rfl)⟩
    rw [hbefore]
    refine stageOf_waiting fun running hrunning hnow => ?_
    obtain rfl := some.inj hrunning
    cases hnow

theorem Busy.not_new : request.id≠s.requestCounter+1 := by
  have hmem := mem_of_getLast? (h.queued.pending.symm.trans h.pending)
  have hold := h.queued.counter request hmem
  omega

variable {event : LocaleWakeWordsSetting.Event}

theorem Busy.due_call (hcall : ofExecutor event=false) (hpending : (s.next assets event).pendingRequest=some request) :
    Due kind (s.next assets event) request ↔ Due kind s request := by
  have hlocales : ∀ locales requestType,(s.setLocales assets locales requestType).1.pendingRequest=some request →
      (Due kind (s.setLocales assets locales requestType).1 request ↔ Due kind s request) := by
    intro locales requestType hkept
    obtain ⟨heq,-⟩|⟨heq,-⟩|⟨status,heq,-⟩ := setLocales_cases assets s locales requestType
    · rw [heq]
    · rw [heq]
      exact due_same rfl (by cases kind <;> rfl)
    · rw [heq] at hkept
      exact (h.not_new (congrArg RequestParameters.id (some.inj hkept)).symm).elim
  have hwakeWords : ∀ wakeWords requestType,
      (s.setWakeWords assets wakeWords requestType).1.pendingRequest=some request →
      (Due kind (s.setWakeWords assets wakeWords requestType).1 request ↔ Due kind s request) := by
    intro wakeWords requestType hkept
    obtain heq|⟨status,heq,-⟩ := setWakeWords_cases assets s wakeWords requestType
    · rw [heq]
    · rw [heq] at hkept
      exact (h.not_new (congrArg RequestParameters.id (some.inj hkept)).symm).elim
  cases event with
  | setLocalLocales locales => exact hlocales locales .LOCAL hpending
  | setAvsLocales locales => exact hlocales locales .AVS hpending
  | setLocalWakeWords wakeWords => exact hwakeWords wakeWords .LOCAL hpending
  | setAvsWakeWords wakeWords => exact hwakeWords wakeWords .AVS hpending
  | connected => exact due_same rfl (by cases kind <;> rfl)
  | begin => cases hcall
  | proceed => cases hcall

theorem Busy.step_due (hstep : LocaleWakeWordsSetting.Step assets s event t)
    (hkept : ofExecutor event=false → t.pendingRequest=some request) (hdue : Due kind s request) :
    (∃ attempt∈attempted s event,IsReportOf kind request attempt) ∨ Busy t request ∧ Due kind t request := by
  have hqueued := queued_step h.queued hstep
  have hnumbered := numbered_step h.numbers hstep
  obtain ⟨hpossible,rfl⟩ := hstep
  cases event with
  | proceed running ok =>
    by_cases hnow : requestNow running=some request
    · obtain hreport|⟨hpending,hstays⟩ := h.due_now hpossible hnow hdue ok
      · exact .inl hreport
      · exact .inr ⟨⟨hqueued,hnumbered,hpending⟩,hstays⟩
    · obtain ⟨hpending,hiff⟩ := h.due_elsewhere hpossible hnow ok
      exact .inr ⟨⟨hqueued,hnumbered,hpending⟩,hiff.mpr hdue⟩
  | begin work =>
    obtain ⟨hpending,hiff⟩ := h.due_begin hpossible.1
    exact .inr ⟨⟨hqueued,hnumbered,hpending⟩,hiff.mpr hdue⟩
  | setLocalLocales | setAvsLocales | setLocalWakeWords | setAvsWakeWords | connected =>
    exact .inr ⟨⟨hqueued,hnumbered,hkept rfl⟩,(h.due_call rfl (hkept rfl)).mpr hdue⟩

/-- A request that is due has made its report when nothing is left to do. -/
theorem Busy.answered (hdue : Due kind s request) : Answered assets s kind := by
  refine ⟨request,h.pending,fun trace u hrun hdrained => ?_⟩
  have hinv : (∃ attempt∈u.attempts,IsReportOf kind request attempt) ∨
      Busy u.setting request ∧ Due kind u.setting request := by
    refine hrun.invariant (fun u => (∃ attempt∈u.attempts,IsReportOf kind request attempt) ∨
      Busy u.setting request ∧ Due kind u.setting request) (.inr ⟨h,hdue⟩) fun u event v hu hstep => ?_
    obtain ⟨hkept,hpossible,rfl⟩ := hstep
    obtain ⟨attempt,hmem,hreport⟩|⟨hbusy,hstays⟩ := hu
    · exact .inl ⟨attempt,mem_append_left _ hmem,hreport⟩
    · obtain ⟨attempt,hmem,hreport⟩|hbusy := hbusy.step_due ⟨hpossible,rfl⟩ (hkept hbusy.pending) hstays
      · exact .inl ⟨attempt,mem_append_right _ hmem,hreport⟩
      · exact .inr hbusy
  obtain hreport|⟨hbusy,-⟩ := hinv
  · exact hreport
  · have hpending := hbusy.queued.pending.symm.trans hbusy.pending
    unfold changes at hpending
    rw [hdrained.1,hdrained.2] at hpending
    cases hpending

/-- The answers with which a request makes no report. -/
def answer (kind : Kind) (request : RequestParameters) : Running → Bool
  | .changing _ _ _ | .storing _ => typeOf request kind=.LOCAL
  | .initializing _ _ | .reverting _ | .failing _ | .checkingWakeWords _ _ | .sendingWakeWords _ _
  | .checkingLocale _ _ | .sendingLocale _ _ | .clearing _ => true

/-- The request will make no report with these answers. -/
structure Silent (kind : Kind) (request : RequestParameters) (s : Setting) : Prop where
  queued : Queued s
  numbers : Numbered s
  silent : request∉numbered s ∨ s.pendingRequest=some request ∧ ¬Due kind s request

theorem Busy.undue_storing (hrunning : s.running=some (.storing request)) (hundue : ¬Due kind s request) :
    ¬Due kind (s.proceed (decide (typeOf request kind=.LOCAL)) (.storing request)) request := by
  by_cases hlocal : typeOf request kind=.LOCAL
  · rw [decide_eq_true hlocal]
    have htypes : request.localeRequestType≠.NONE ∨ request.wakeWordsRequestType≠.NONE := by
      cases kind with
      | locales => exact .inl fun hnone => by cases hlocal.symm.trans hnone
      | wakeWords => exact .inr fun hnone => by cases hlocal.symm.trans hnone
    have hok : (s.storeValues request true).2=true := by
      unfold storeValues
      rw [if_pos h.latest,if_pos htypes,if_pos rfl]
    have hafter := running_storing s request true
    rw [hok,if_pos rfl] at hafter
    rw [due_reporting hafter rfl rfl,status_storing,status_storeValues kind h.latest htypes,hlocal]
    exact nofun
  · rw [decide_eq_false hlocal]
    have hstatus : status s kind≠.AVS_CHANGE_IN_PROGRESS := fun hasks =>
      hundue ((due_applying hrunning rfl rfl).mpr ⟨hasks,hlocal⟩)
    have hafter := running_storing s request false
    by_cases htypes : request.localeRequestType≠.NONE ∨ request.wakeWordsRequestType≠.NONE
    · rw [storeValues_refused h.latest htypes] at hafter
      rw [due_reporting hafter rfl rfl,status_storing,storeValues_refused h.latest htypes]
      exact hstatus
    · rw [storeValues_nothing h.latest htypes] at hafter
      rw [due_reporting hafter rfl rfl,status_storing,storeValues_nothing h.latest htypes]
      exact hstatus

/-- It goes on with a request that is not due, and gets these answers. -/
theorem Busy.undue_now (hrunning : s.running=some running)
    (hnow : requestNow running=some request) (hundue : ¬Due kind s request) :
    request∉numbered (s.proceed (answer kind request running) running) ∨
      (s.proceed (answer kind request running) running).pendingRequest=some request ∧
        ¬Due kind (s.proceed (answer kind request running) running) request := by
  cases hdecides : decides kind running with
  | false =>
    obtain ⟨hpending,hiff⟩ := h.due_frame hrunning hnow hdecides (answer kind request running)
    exact .inr ⟨hpending,fun hdue => hundue (hiff.mp hdue)⟩
  | true =>
    cases running with
    | changing other locales wakeWords =>
      obtain rfl := some.inj hnow
      refine .inr ⟨h.pending,?_⟩
      have hafter : (s.proceed (answer kind other (.changing other locales wakeWords))
          (.changing other locales wakeWords)).running =
            some (if decide (typeOf other kind=.LOCAL) then .storing other else .failing other) := rfl
      by_cases hlocal : typeOf other kind=.LOCAL
      · rw [decide_eq_true hlocal,if_pos rfl] at hafter
        rw [due_applying hafter rfl rfl]
        exact fun hboth => hboth.2 hlocal
      · rw [decide_eq_false hlocal,if_neg Bool.false_ne_true] at hafter
        rw [due_reporting hafter rfl rfl]
        refine fun hasks => hundue ((due_applying hrunning rfl rfl).mpr ⟨?_,hlocal⟩)
        cases kind <;> exact hasks
    | storing other =>
      obtain rfl := some.inj hnow
      exact .inr ⟨(storeValues_frame s other _).2.1.trans h.pending,h.undue_storing hrunning hundue⟩
    | clearing other =>
      obtain rfl := some.inj hnow
      refine .inl fun hmem => ?_
      have hids := h.numbers.ids
      unfold AvsReports.numbered at hids hmem
      rw [hrunning] at hids
      have hlt := rel_of_pairwise_cons hids hmem
      omega
    | checkingWakeWords other change =>
      obtain ⟨rfl,rfl⟩ := change_of_requestNow hnow
      cases kind with
      | locales => cases hdecides
      | wakeWords =>
        have hafter : (s.proceed true (.checkingWakeWords other true)).running =
          some (if s.wakeWordsStatus=.SYNCHRONIZED then .checkingLocale other true else .sendingWakeWords other true) := rfl
        refine .inr ⟨h.pending,not_due_past ?_⟩
        split at hafter
        · exact (stageOf_now hafter rfl).trans rfl
        · exact (stageOf_now hafter rfl).trans rfl
    | checkingLocale other change =>
      obtain ⟨rfl,rfl⟩ := change_of_requestNow hnow
      cases kind with
      | wakeWords => cases hdecides
      | locales =>
        have hafter : (s.proceed true (.checkingLocale other true)).running =
          if s.localeStatus=.SYNCHRONIZED then some (.clearing other) else some (.sendingLocale other true) := rfl
        refine .inr ⟨h.pending,not_due_past ?_⟩
        split at hafter
        · exact (stageOf_now hafter rfl).trans rfl
        · exact (stageOf_now hafter rfl).trans rfl
    | initializing | reverting | failing | sendingWakeWords | sendingLocale => cases hdecides

end

theorem Silent.proceed (h : Silent kind request s) (hrunning : s.running=some running) :
    Silent kind request (s.proceed (answer kind request running) running) ∧
      ∀ attempt∈attempted s (.proceed running (answer kind request running)),¬IsReportOf kind request attempt := by
  have hstep := queued_proceed h.queued hrunning (answer kind request running)
  obtain ⟨hsublist,hcounter⟩ := numbered_proceed hrunning (answer kind request running)
  have hnumbered := h.numbers.sublist hsublist hcounter
  obtain hfinished|⟨hpending,hundue⟩ := h.silent
  · refine ⟨⟨hstep,hnumbered,.inl fun hmem => hfinished (hsublist.subset hmem)⟩,fun attempt hmem hreport => ?_⟩
    have hnow := (due_of_attempted hrunning hmem hreport).1
    refine hfinished (mem_append_left _ ?_)
    rw [hrunning,bind_some,mem_toList]
    cases running with
    | checkingWakeWords other change | sendingWakeWords other change | checkingLocale other change
    | sendingLocale other change => exact congrArg some (change_of_requestNow hnow).2
    | initializing locales wakeWords => cases hnow
    | changing | storing | reverting | failing | clearing => exact hnow
  · have hbusy : Busy s request := ⟨h.queued,h.numbers,hpending⟩
    refine ⟨⟨hstep,hnumbered,?_⟩,fun attempt hmem hreport => hundue (due_of_attempted hrunning hmem hreport).2⟩
    by_cases hnow : requestNow running=some request
    · exact hbusy.undue_now hrunning hnow hundue
    · obtain ⟨hkept,hiff⟩ := hbusy.due_elsewhere hrunning hnow (answer kind request running)
      exact .inr ⟨hkept,fun hdue => hundue (hiff.mp hdue)⟩

theorem Silent.begin (h : Silent kind request s) (hidle : s.running=none) (hhead : s.executor.head?=some work) :
    Silent kind request ({s with executor := s.executor.tail}.begin work) := by
  obtain ⟨hsublist,hcounter⟩ := numbered_begin hidle hhead
  refine ⟨queued_begin h.queued hidle hhead,h.numbers.sublist hsublist hcounter,?_⟩
  obtain hfinished|⟨hpending,hundue⟩ := h.silent
  · exact .inl fun hmem => hfinished (hsublist.subset hmem)
  · have hbusy : Busy s request := ⟨h.queued,h.numbers,hpending⟩
    obtain ⟨hkept,hiff⟩ := hbusy.due_begin hidle
    exact .inr ⟨hkept,fun hdue => hundue (hiff.mp hdue)⟩

/-- How much the executor has left to do with what it is about. -/
def rank : Running → ℕ
  | .changing _ _ _ => 10
  | .storing _ => 9
  | .reverting _ => 8
  | .failing _ => 7
  | .checkingWakeWords _ _ => 6
  | .sendingWakeWords _ _ => 5
  | .checkingLocale _ _ => 4
  | .sendingLocale _ _ => 3
  | .clearing _ => 2
  | .initializing _ _ => 1

def left (s : Setting) : ℕ := 11*s.executor.length+s.running.elim 0 rank

theorem left_proceed (hrunning : s.running=some running) (ok : Bool) : left (s.proceed ok running)<left s := by
  unfold left
  rw [hrunning]
  cases running with
  | storing request =>
    rw [running_storing,show (s.proceed ok (.storing request)).executor=s.executor from
      (storeValues_frame s request ok).1]
    split
    · exact Nat.add_lt_add_left (by decide : 6<9) _
    · exact Nat.add_lt_add_left (by decide : 8<9) _
  | changing =>
    cases ok with
    | true => exact Nat.add_lt_add_left (by decide : 9<10) _
    | false => exact Nat.add_lt_add_left (by decide : 7<10) _
  | failing =>
    unfold Setting.proceed
    dsimp only
    split
    · exact Nat.add_lt_add_left (by decide : 6<7) _
    · exact Nat.add_lt_add_left (by decide : 2<7) _
  | checkingWakeWords =>
    unfold Setting.proceed
    dsimp only
    split
    · exact Nat.add_lt_add_left (by decide : 4<6) _
    · exact Nat.add_lt_add_left (by decide : 5<6) _
  | checkingLocale request change =>
    unfold Setting.proceed
    dsimp only
    split
    · cases change with
      | true => exact Nat.add_lt_add_left (by decide : 2<4) _
      | false => exact Nat.add_lt_add_left (by decide : 0<4) _
    · exact Nat.add_lt_add_left (by decide : 3<4) _
  | sendingLocale request change =>
    cases change with
    | true => exact Nat.add_lt_add_left (by decide : 2<3) _
    | false => exact Nat.add_lt_add_left (by decide : 0<3) _
  | initializing => exact Nat.add_lt_add_left (by decide : 0<1) _
  | reverting => exact Nat.add_lt_add_left (by decide : 7<8) _
  | sendingWakeWords => exact Nat.add_lt_add_left (by decide : 4<5) _
  | clearing => exact Nat.add_lt_add_left (by decide : 0<2) _

theorem left_begin (hidle : s.running=none) (hhead : s.executor.head?=some work) :
    left ({s with executor := s.executor.tail}.begin work)<left s := by
  obtain ⟨rest,hexecutor⟩ := List.head?_eq_some_iff.mp hhead
  unfold left
  rw [hidle,hexecutor,tail_cons,length_cons]
  cases work with
  | change =>
    unfold Setting.begin
    dsimp only
    split
    · dsimp only [Option.elim,rank]
      omega
    · dsimp only [Option.elim]
      omega
  | restore | synchronize =>
    dsimp only [Setting.begin,Option.elim,rank]
    omega

/-- The executor takes a step without a report, if it has something to do. -/
theorem Silent.next {u : Reporting} (h : Silent kind request u.setting)
    (hattempts : ∀ attempt∈u.attempts,¬IsReportOf kind request attempt) (hbusy : ¬Drained u.setting) :
    ∃ (event : LocaleWakeWordsSetting.Event) (v : Reporting),
      Guarded (Step assets) (Unsuperseded assets request) u event v ∧
        (Silent kind request v.setting ∧ ∀ attempt∈v.attempts,¬IsReportOf kind request attempt) ∧
        left v.setting<left u.setting := by
  cases hrunning : u.setting.running with
  | some running =>
    obtain ⟨hsilent,hnone⟩ := h.proceed hrunning
    refine ⟨.proceed running (answer kind request running),
      u.next assets (.proceed running (answer kind request running)),⟨nofun,hrunning,rfl⟩,
      ⟨hsilent,fun attempt hmem => ?_⟩,left_proceed hrunning _⟩
    obtain hold|hnew := mem_append.mp hmem
    · exact hattempts attempt hold
    · exact hnone attempt hnew
  | none =>
    cases hexecutor : u.setting.executor with
    | nil => exact (hbusy ⟨hexecutor,hrunning⟩).elim
    | cons work =>
      have hhead : u.setting.executor.head?=some work := by rw [hexecutor,List.head?_cons]
      refine ⟨.begin work,u.next assets (.begin work),⟨nofun,⟨hrunning,hhead⟩,rfl⟩,
        ⟨h.begin hrunning hhead,fun attempt hmem => ?_⟩,left_begin hrunning hhead⟩
      obtain hold|hnew := mem_append.mp hmem
      · exact hattempts attempt hold
      · cases hnew

/-- A request that is not due may be finished without a report. -/
theorem Busy.unanswered (h : Busy s request) (hundue : ¬Due kind s request) : ¬Answered assets s kind := by
  rintro ⟨other,hpending,hanswered⟩
  obtain rfl := some.inj (hpending.symm.trans h.pending)
  let Quiet : Reporting → Prop := fun u =>
    Silent kind other u.setting ∧ ∀ attempt∈u.attempts,¬IsReportOf kind other attempt
  have hstart : Quiet ⟨s,[]⟩ := ⟨⟨h.queued,h.numbers,.inr ⟨h.pending,hundue⟩⟩,nofun⟩
  obtain ⟨trace,u,hrun,⟨-,hsilent⟩,hdrained⟩ :=
    Run.settle Quiet (fun u => Drained u.setting) (fun u => left u.setting)
      (fun u hu hbusy => hu.1.next hu.2 hbusy) hstart
  obtain ⟨attempt,hmem,hreport⟩ := hanswered trace u hrun hdrained
  exact hsilent attempt hmem hreport

theorem due_new (h : Queued s) {new : RequestParameters} (hrunning : t.running=s.running)
    (hid : new.id=s.requestCounter+1) (hasks : status t kind=.AVS_CHANGE_IN_PROGRESS)
    (htype : typeOf new kind≠.LOCAL) : Due kind t new := by
  have hwaits : stageOf kind t new=.applying := by
    refine stageOf_waiting fun running hnow hnew => ?_
    rw [hrunning] at hnow
    have hold : new.id ≤ s.requestCounter := h.counter new (by
      rw [changes_eq hnow,hnew]
      exact mem_cons_self)
    omega
  refine ⟨?_,hasks,fun _ => htype⟩
  rw [hwaits]
  exact nofun

theorem Busy.due_iff (h : Busy s request) : Answered assets s kind ↔ Due kind s request := by
  constructor
  · intro hanswered
    by_contra hundue
    exact h.unanswered hundue hanswered
  · exact h.answered

variable {isOf : RequestParameters → Bool}

theorem Busy.answered_pending_iff (h : Busy t request)
    (hpending : s.pendingRequest=some request) (hof : isOf request=true)
    (hsame : Due kind t request ↔ Due kind s request) :
    Answered assets t kind ↔ ∀ pending,s.pendingRequest=some pending → isOf pending=true → Due kind s pending := by
  rw [h.due_iff,hsame]
  constructor
  · intro hdue pending hother _
    rw [←some.inj (hpending.symm.trans hother)]
    exact hdue
  · exact fun hdue => hdue request hpending hof

/-- It takes the place of one that does not carry the value. -/
theorem Busy.answered_new_iff (h : Busy t request) (hdue : Due kind t request)
    (hother : ∀ pending,s.pendingRequest=some pending → isOf pending≠true) :
    Answered assets t kind ↔ ∀ pending,s.pendingRequest=some pending → isOf pending=true → Due kind s pending :=
  iff_of_true (h.due_iff.mpr hdue) fun pending hpending hof => (hother pending hpending hof).elim

theorem setLocales_avs (assets : AssetsManager) (s : Setting) (locales : DeviceLocales) :
    returnValueFromSetSettingResult (s.setLocales assets locales .AVS).2=false ∨
    ((s.setLocales assets locales .AVS).1={s with accepted := some locales} ∧
      ∃ pending,s.pendingRequest=some pending ∧ pending.locales=locales) ∨ ((s.setLocales assets locales .AVS).1 =
        {s with localeStatus := .AVS_CHANGE_IN_PROGRESS,accepted := some locales}.submit .AVS locales
          (wakeWordsFor assets s locales).1 (wakeWordsFor assets s locales).2 ∧
      ∀ pending,s.pendingRequest=some pending → pending.locales≠locales) := by
  unfold Setting.setLocales
  split
  · exact .inl rfl
  · split
    next hsame =>
      obtain ⟨pending,hpending,heq⟩ := (any_eq_true _ _).mp hsame
      exact .inr (.inl ⟨rfl,pending,hpending,eq_of_beq heq⟩)
    next hother =>
      rw [if_neg fun hlocal => hlocal.1 rfl]
      refine .inr (.inr ⟨rfl,fun pending hpending heq => hother ?_⟩)
      rw [hpending,any_some,heq,beq_self_eq_true]

theorem setWakeWords_avs (assets : AssetsManager) (s : Setting) (wakeWords : WakeWords) :
    returnValueFromSetSettingResult (s.setWakeWords assets wakeWords .AVS).2=false ∨
    ((s.setWakeWords assets wakeWords .AVS).1=s ∧
      ∃ pending,s.pendingRequest=some pending ∧ pending.wakeWords=wakeWords) ∨
    ((s.setWakeWords assets wakeWords .AVS).1 =
        {s with wakeWordsStatus := .AVS_CHANGE_IN_PROGRESS}.submit s.localesFor.1 s.localesFor.2 .AVS wakeWords ∧
      ∀ pending,s.pendingRequest=some pending → pending.wakeWords≠wakeWords) := by
  unfold Setting.setWakeWords
  split
  · exact .inl rfl
  · split
    next hsame =>
      obtain ⟨pending,hpending,heq⟩ := (any_eq_true _ _).mp hsame
      exact .inr (.inl ⟨rfl,pending,hpending,eq_of_beq heq⟩)
    next hother =>
      rw [if_neg fun hlocal => hlocal.1 rfl]
      dsimp only
      split
      · exact .inl rfl
      · refine .inr (.inr ⟨rfl,fun pending hpending heq => hother ?_⟩)
        rw [hpending,any_some,heq,beq_self_eq_true]

/-- A change that the service asks for and that is accepted is answered if and only if no request with its value is
pending, or the one that is pending is due. -/
theorem avs_changes_answered_iff (assets : AssetsManager) (storage : Storage) {trace : List LocaleWakeWordsSetting.Event}
    {s : Setting} (hrun : Run (LocaleWakeWordsSetting.Step assets) (create assets storage) trace s) (change : Change)
    (haccepted : (setAvsChange assets s change).2=true) :
    Answered assets (setAvsChange assets s change).1 change.kind ↔
      ∀ pending,s.pendingRequest=some pending → change.isOf pending=true → Due change.kind s pending := by
  have hqueued : Queued s := hrun.invariant Queued (queued_create assets storage) fun _ _ _ h => queued_step h
  have hnumbered : Numbered s := hrun.invariant Numbered (numbered_create assets storage) fun _ _ _ h => numbered_step h
  cases change with
  | locales locales =>
    have hstep : LocaleWakeWordsSetting.Step assets s (.setAvsLocales locales) (s.setLocales assets locales .AVS).1 :=
      ⟨trivial,rfl⟩
    have hafter := queued_step hqueued hstep
    have hafter' := numbered_step hnumbered hstep
    change Answered assets (s.setLocales assets locales .AVS).1 .locales ↔ _
    obtain hrefused|⟨heq,pending,hpending,hsame⟩|⟨heq,hother⟩ := setLocales_avs assets s locales
    · cases haccepted.symm.trans hrefused
    · rw [heq] at hafter hafter' ⊢
      have hbusy : Busy {s with accepted := some locales} pending := ⟨hafter,hafter',hpending⟩
      exact hbusy.answered_pending_iff hpending (beq_iff_eq.mpr hsame) (due_same rfl rfl)
    · rw [heq] at hafter hafter' ⊢
      refine (Busy.mk hafter hafter' rfl).answered_new_iff (due_new hqueued rfl rfl rfl fun hlocal => by cases hlocal) ?_
      exact fun pending hpending hsame => hother pending hpending (beq_iff_eq.mp hsame)
  | wakeWords wakeWords =>
    have hstep : LocaleWakeWordsSetting.Step assets s (.setAvsWakeWords wakeWords)
        (s.setWakeWords assets wakeWords .AVS).1 := ⟨trivial,rfl⟩
    have hafter := queued_step hqueued hstep
    have hafter' := numbered_step hnumbered hstep
    change Answered assets (s.setWakeWords assets wakeWords .AVS).1 .wakeWords ↔ _
    obtain hrefused|⟨heq,pending,hpending,hsame⟩|⟨heq,hother⟩ := setWakeWords_avs assets s wakeWords
    · cases haccepted.symm.trans hrefused
    · rw [heq]
      have hbusy : Busy s pending := ⟨hqueued,hnumbered,hpending⟩
      exact hbusy.answered_pending_iff hpending (beq_iff_eq.mpr hsame) Iff.rfl
    · rw [heq] at hafter hafter' ⊢
      refine (Busy.mk hafter hafter' rfl).answered_new_iff (due_new hqueued rfl rfl rfl fun hlocal => by cases hlocal) ?_
      exact fun pending hpending hsame => hother pending hpending (beq_iff_eq.mp hsame)

/-- Nothing is pending, and the service asks for the other locale. -/
theorem avs_changes_answered_new :
    Answered twoLocales (setAvsChange twoLocales (create twoLocales defaultStored) (.locales ["de-DE"])).1 .locales := by
  refine (avs_changes_answered_iff twoLocales defaultStored Run.refl (.locales ["de-DE"]) (by decide)).mpr ?_
  exact fun pending hpending => by cases hpending

/-- The user asks for the other locale, then the service: no report is sent. -/
theorem local_change_answers_for_service :
    ∃ (assets : AssetsManager) (storage : Storage) (trace : List LocaleWakeWordsSetting.Event) (s : Setting),
      Run (LocaleWakeWordsSetting.Step assets) (create assets storage) trace s ∧
        (setAvsChange assets s (.locales ["de-DE"])).2=true ∧
        (∃ more u,Run (Step assets) ⟨(setAvsChange assets s (.locales ["de-DE"])).1,[]⟩ more u ∧ Drained u.setting ∧
          ∀ attempt∈u.attempts,isReport attempt.status=false) ∧
        ¬Answered assets (setAvsChange assets s (.locales ["de-DE"])).1 .locales := by
  have hpending : (setAvsChange twoLocales ((create twoLocales defaultStored).next twoLocales (.setLocalLocales ["de-DE"]))
      (.locales ["de-DE"])).1.pendingRequest=some (other .LOCAL) := by decide
  have hfollow : canFollow (fun (s : Reporting) event => decide (LocaleWakeWordsSetting.Possible s.setting event))
      (Reporting.next twoLocales)
      ⟨(setAvsChange twoLocales ((create twoLocales defaultStored).next twoLocales (.setLocalLocales ["de-DE"]))
        (.locales ["de-DE"])).1,[]⟩ (draining .LOCAL)=true := by decide
  have hrun := Run.follow (step_next twoLocales) Run.refl hfollow
  have hexecutor : ∀ event∈draining .LOCAL,ofExecutor event=true := by decide
  have hguarded : Run (Guarded (Step twoLocales) (Unsuperseded twoLocales (other .LOCAL))) _ _ _ :=
    hrun.guard fun event hmem _ _ hcall => by cases (hexecutor event hmem).symm.trans hcall
  refine ⟨twoLocales,defaultStored,[.setLocalLocales ["de-DE"]],_,Run.single ⟨trivial,rfl⟩,by decide,
    ⟨_,_,hrun,⟨by decide,by decide⟩,by decide⟩,?_⟩
  rintro ⟨pending,hsome,hanswered⟩
  obtain rfl := some.inj (hsome.symm.trans hpending)
  obtain ⟨attempt,hmem,-,hreport,-⟩ := hanswered _ _ hguarded ⟨by decide,by decide⟩
  have hnone : ∀ attempt∈((draining .LOCAL).foldl (Reporting.next twoLocales)
      ⟨(setAvsChange twoLocales ((create twoLocales defaultStored).next twoLocales (.setLocalLocales ["de-DE"]))
        (.locales ["de-DE"])).1,[]⟩).attempts,isReport attempt.status=false := by decide
  cases hreport.symm.trans (hnone attempt hmem)

end AlexaClientSDK.AvsReports
