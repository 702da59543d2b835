import AlexaClientSDK.LocaleWakeWordsSetting

/-!
# The pending request

The pending request is the last of the requests that the executor has not finished, so that it is the one that
the executor is about only when no other one waits.
-/

namespace AlexaClientSDK.PendingRequests

open Bool List LocaleWakeWordsSetting Setting

variable {assets : AssetsManager} {s t : Setting} {request : RequestParameters}

/-- The request of a queued change. -/
def requestOf : Work → Option RequestParameters
  | .change request => some request
  | .restore _ _ | .synchronize _ => none

/-- The request of the change that the executor is about. -/
def requestNow : Running → Option RequestParameters
  | .changing request _ _ | .storing request | .reverting request | .failing request | .clearing request => some request
  | .checkingWakeWords request change | .sendingWakeWords request change | .checkingLocale request change
  | .sendingLocale request change => if change then some request else none
  | .initializing _ _ => none

/-- The requests that are not finished, oldest first. -/
def changes (s : Setting) : List RequestParameters :=
  (s.running.bind requestNow).toList++s.executor.filterMap requestOf

/-- The last one, and the numbers grow. -/
structure Queued (s : Setting) : Prop where
  pending : s.pendingRequest=(changes s).getLast?
  ids : (changes s).Pairwise fun first second => first.id<second.id
  counter : ∀ request∈changes s,request.id ≤ s.requestCounter

section

variable (h : Queued s)
include h

/-- Requests of one number are the same. -/
theorem Queued.eq_of_id {other : RequestParameters} (hmem : request∈changes s) (hother : other∈changes s)
    (hid : other.id=request.id) : other=request := by
  have hnodup : ((changes s).map RequestParameters.id).Nodup := pairwise_map.mpr (h.ids.imp Nat.ne_of_lt)
  exact inj_on_of_nodup_map hnodup hother hmem hid

/-- A request is the latest one where it is the pending one. -/
theorem Queued.latest_iff (hmem : request∈changes s) :
    s.isLatestRequestLocked request=true ↔ s.pendingRequest=some request := by
  unfold isLatestRequestLocked
  rw [h.pending]
  obtain hnone|⟨pending,hsome⟩ := Option.eq_none_or_eq_some (changes s).getLast?
  · rw [List.getLast?_eq_none_iff.mp hnone] at hmem
    cases hmem
  · rw [hsome,Option.all_some,beq_iff_eq,Option.some.injEq]
    constructor
    · exact h.eq_of_id hmem (mem_of_getLast? hsome)
    · exact fun heq => congrArg _ heq

variable {rest : List RequestParameters}

/-- The pending request has nothing behind it. -/
theorem Queued.only (hchanges : changes s=request::rest) (hpending : s.pendingRequest=some request) : rest=[] := by
  have hlast := h.pending.symm.trans hpending
  have hids := h.ids
  rw [hchanges] at hlast hids
  cases rest with
  | nil => rfl
  | cons =>
    rw [List.getLast?_cons_cons] at hlast
    have hlt := rel_of_pairwise_cons hids (mem_of_getLast? hlast)
    omega

/-- The first request is finished, and no longer pending if it was. -/
theorem Queued.drop (hchanges : changes s=request::rest)
    (hafter : changes t=rest) (hcounter : t.requestCounter=s.requestCounter)
    (hpending : t.pendingRequest=if s.isLatestRequestLocked request then none else s.pendingRequest) : Queued t := by
  have hmem : request∈changes s := by
    rw [hchanges]
    exact mem_cons_self
  have hids := h.ids
  rw [hchanges] at hids
  refine ⟨?_,?_,fun other hother => ?_⟩
  · rw [hpending,hafter]
    split
    next hlatest => rw [h.only hchanges ((h.latest_iff hmem).mp hlatest),List.getLast?_nil]
    next hlatest =>
      have hlast := h.pending
      rw [hchanges] at hlast
      cases rest with
      | nil => exact (hlatest ((h.latest_iff hmem).mpr hlast)).elim
      | cons => rw [hlast,List.getLast?_cons_cons]
  · rw [hafter]
    exact hids.of_cons
  · rw [hcounter]
    rw [hafter] at hother
    refine h.counter other ?_
    rw [hchanges]
    exact mem_cons_of_mem _ hother

/-- The requests stay what they are. -/
theorem Queued.same (hchanges : changes t=changes s) (hpending : t.pendingRequest=s.pendingRequest)
    (hcounter : s.requestCounter≤t.requestCounter) : Queued t where
  pending := by
    rw [hpending,hchanges]
    exact h.pending
  ids := hchanges ▸ h.ids
  counter other hother := by
    rw [hchanges] at hother
    exact (h.counter other hother).trans hcounter

/-- A new request has the next number. -/
theorem Queued.submit (localeRequestType : RequestType) (locales : DeviceLocales)
    (wakeWordsRequestType : RequestType) (wakeWords : WakeWords) :
    Queued (s.submit localeRequestType locales wakeWordsRequestType wakeWords) := by
  have hchanges : changes (s.submit localeRequestType locales wakeWordsRequestType wakeWords) =
      changes s++[⟨s.requestCounter+1,localeRequestType,locales,wakeWordsRequestType,wakeWords⟩] := by
    unfold changes Setting.submit
    rw [append_assoc,filterMap_append]
    rfl
  refine ⟨?_,?_,fun other hother => ?_⟩
  · rw [hchanges,List.getLast?_concat]
    rfl
  · rw [hchanges]
    refine pairwise_append.mpr ⟨h.ids,pairwise_singleton _ _,fun other hother last hlast => ?_⟩
    rw [mem_singleton.mp hlast]
    exact Nat.lt_succ_of_le (h.counter other hother)
  · rw [hchanges] at hother
    change other.id ≤ s.requestCounter+1
    rcases mem_append.mp hother with hold|hnew
    · exact (h.counter other hold).trans (Nat.le_succ _)
    · rw [mem_singleton.mp hnew]

end

section

variable (assets)

/-- Locales are refused, accepted without a request, or requested. -/
theorem setLocales_cases (s : Setting) (locales : DeviceLocales) (requestType : RequestType) :
    ((s.setLocales assets locales requestType).1=s ∧ isValid assets locales=false) ∨
    ((s.setLocales assets locales requestType).1={s with accepted := some locales} ∧ isValid assets locales=true ∧
      ((∃ pending,s.pendingRequest=some pending ∧ pending.locales=locales) ∨ requestType≠.AVS ∧ locales=s.locales)) ∨
    ∃ status,(s.setLocales assets locales requestType).1 =
        {s with localeStatus := status,accepted := some locales}.submit requestType locales
          (wakeWordsFor assets s locales).1 (wakeWordsFor assets s locales).2 ∧ isValid assets locales=true := by
  unfold Setting.setLocales
  split
  next hinvalid => exact .inl ⟨rfl,not_eq_true' _ |>.mp hinvalid⟩
  next hvalid =>
    have hvalid' : isValid assets locales=true := by
      rwa [not_eq_true',not_eq_false] at hvalid
    split
    next hsame =>
      obtain ⟨pending,hpending,heq⟩ := (Option.any_eq_true _ _).mp hsame
      exact .inr (.inl ⟨rfl,hvalid',.inl ⟨pending,hpending,eq_of_beq heq⟩⟩)
    · split
      next happlied => exact .inr (.inl ⟨rfl,hvalid',.inr happlied⟩)
      · split
        · exact .inr (.inr ⟨.AVS_CHANGE_IN_PROGRESS,rfl,hvalid'⟩)
        · exact .inr (.inr ⟨s.localeStatus,rfl,hvalid'⟩)

/-- Wake words are requested only where they are supported. -/
theorem setWakeWords_cases (s : Setting) (wakeWords : WakeWords) (requestType : RequestType) :
    (s.setWakeWords assets wakeWords requestType).1=s ∨ ∃ status,(s.setWakeWords assets wakeWords requestType).1 =
        {s with wakeWordsStatus := status}.submit s.localesFor.1 s.localesFor.2 requestType wakeWords ∧
      wakeWords≠∅ ∧ (assets.supportedWakeWords s.localesFor.2 wakeWords).1=true := by
  unfold Setting.setWakeWords
  split
  · exact .inl rfl
  next hsome =>
    split
    · exact .inl rfl
    · split
      · exact .inl rfl
      · dsimp only
        split
        · exact .inl rfl
        next hsupported =>
          have hsupported' : (assets.supportedWakeWords s.localesFor.2 wakeWords).1=true := by
            rwa [not_eq_true',not_eq_false] at hsupported
          split
          · exact .inr ⟨.AVS_CHANGE_IN_PROGRESS,rfl,hsome,hsupported'⟩
          · exact .inr ⟨s.wakeWordsStatus,rfl,hsome,hsupported'⟩

/-- Requested locales are the last request. -/
theorem queued_setLocales (h : Queued s) (locales : DeviceLocales) (requestType : RequestType) :
    Queued (s.setLocales assets locales requestType).1 := by
  obtain ⟨heq,-⟩|⟨heq,-⟩|⟨status,heq,-⟩ := setLocales_cases assets s locales requestType
  · rw [heq]
    exact h
  · rw [heq]
    exact h.same rfl rfl le_rfl
  · rw [heq]
    have hsame : Queued {s with localeStatus := status,accepted := some locales} := h.same rfl rfl le_rfl
    exact hsame.submit ..

/-- Requested wake words are the last request. -/
theorem queued_setWakeWords (h : Queued s) (wakeWords : WakeWords) (requestType : RequestType) :
    Queued (s.setWakeWords assets wakeWords requestType).1 := by
  obtain heq|⟨status,heq,-⟩ := setWakeWords_cases assets s wakeWords requestType
  · rw [heq]
    exact h
  · rw [heq]
    have hsame : Queued {s with wakeWordsStatus := status} := h.same rfl rfl le_rfl
    exact hsame.submit ..

end

variable {running : Running}

/-- The request that is being worked on is the first one. -/
theorem changes_eq (hrunning : s.running=some running) :
    changes s=(requestNow running).toList++s.executor.filterMap requestOf := by
  unfold changes
  rw [hrunning]
  rfl

/-- Storing leaves the requests alone. -/
theorem storeValues_frame (s : Setting) (request : RequestParameters) (ok : Bool) :
    (s.storeValues request ok).1.executor=s.executor ∧ (s.storeValues request ok).1.pendingRequest=s.pendingRequest ∧
    (s.storeValues request ok).1.requestCounter=s.requestCounter ∧
    (s.storeValues request ok).1.accepted=s.accepted := by
  unfold storeValues
  split
  · split
    · split
      · exact ⟨rfl,rfl,rfl,rfl⟩
      · exact ⟨rfl,rfl,rfl,rfl⟩
    · exact ⟨rfl,rfl,rfl,rfl⟩
  · exact ⟨rfl,rfl,rfl,rfl⟩

section

variable (h : Queued s)
include h

/-- A task is begun, or skipped since it is not the latest. -/
theorem queued_begin {work : Work} (hidle : s.running=none) (hhead : s.executor.head?=some work) :
    Queued ({s with executor := s.executor.tail}.begin work) := by
  obtain ⟨rest,hexecutor⟩ := List.head?_eq_some_iff.mp hhead
  have hchanges : changes s=(requestOf work).toList++rest.filterMap requestOf := by
    unfold changes
    rw [hidle,hexecutor]
    cases work <;> rfl
  have htail : s.executor.tail=rest := by rw [hexecutor,tail_cons]
  rw [htail]
  cases work with
  | change request =>
    unfold begin
    dsimp only
    split
    · refine h.same ?_ rfl le_rfl
      rw [hchanges]
      rfl
    next hlatest =>
      refine h.drop hchanges ?_ rfl ?_
      · unfold changes
        rw [hidle]
        rfl
      · have hfalse : s.isLatestRequestLocked request=false := eq_false_iff.mpr hlatest
        rw [hfalse]
        rfl
  | restore | synchronize =>
    refine h.same ?_ rfl le_rfl
    rw [hchanges]
    rfl

/-- The work on a request goes on. -/
theorem queued_goesOn {running after : Running} (hrunning : s.running=some running)
    (hafter : t.running=some after) (hrequest : requestNow after=requestNow running)
    (hexecutor : t.executor=s.executor) (hpending : t.pendingRequest=s.pendingRequest)
    (hcounter : t.requestCounter=s.requestCounter) : Queued t := by
  refine h.same ?_ hpending hcounter.ge
  rw [changes_eq hafter,changes_eq hrunning,hrequest,hexecutor]

/-- Work that has no request ends. -/
theorem queued_ends (hrunning : s.running=some running)
    (hrequest : requestNow running=none) (hafter : t.running=none) (hexecutor : t.executor=s.executor)
    (hpending : t.pendingRequest=s.pendingRequest) (hcounter : t.requestCounter=s.requestCounter) : Queued t := by
  refine h.same ?_ hpending hcounter.ge
  rw [changes_eq hrunning,hrequest]
  unfold changes
  rw [hafter,hexecutor]
  rfl

/-- Every stage keeps the requests in order. -/
theorem queued_proceed (hrunning : s.running=some running) (ok : Bool) : Queued (s.proceed ok running) := by
  cases running with
  | initializing => exact queued_ends h hrunning rfl rfl rfl rfl rfl
  | changing =>
    cases ok with
    | true | false => exact queued_goesOn h hrunning rfl rfl rfl rfl rfl
  | storing request =>
    obtain ⟨hexecutor,hpending,hcounter,-⟩ := storeValues_frame s request ok
    unfold proceed
    dsimp only
    split
    · exact queued_goesOn h hrunning rfl rfl hexecutor hpending hcounter
    · exact queued_goesOn h hrunning rfl rfl hexecutor hpending hcounter
  | reverting | sendingWakeWords => exact queued_goesOn h hrunning rfl rfl rfl rfl rfl
  | failing | checkingWakeWords =>
    unfold proceed
    dsimp only
    split
    · exact queued_goesOn h hrunning rfl rfl rfl rfl rfl
    · exact queued_goesOn h hrunning rfl rfl rfl rfl rfl
  | checkingLocale request change =>
    unfold proceed
    dsimp only
    split
    · cases change with
      | true => exact queued_goesOn h hrunning rfl rfl rfl rfl rfl
      | false => exact queued_ends h hrunning rfl rfl rfl rfl rfl
    · exact queued_goesOn h hrunning rfl rfl rfl rfl rfl
  | sendingLocale request change =>
    cases change with
    | true => exact queued_goesOn h hrunning rfl rfl rfl rfl rfl
    | false => exact queued_ends h hrunning rfl rfl rfl rfl rfl
  | clearing => exact h.drop (changes_eq hrunning) rfl rfl rfl

/-- Every step keeps the requests in order. -/
theorem queued_step {event : Event} (hstep : Step assets s event t) : Queued t := by
  obtain ⟨hpossible,rfl⟩ := hstep
  cases event with
  | setLocalLocales locales => exact queued_setLocales assets h locales .LOCAL
  | setAvsLocales locales => exact queued_setLocales assets h locales .AVS
  | setLocalWakeWords wakeWords => exact queued_setWakeWords assets h wakeWords .LOCAL
  | setAvsWakeWords wakeWords => exact queued_setWakeWords assets h wakeWords .AVS
  | connected =>
    refine h.same ?_ rfl (Nat.le_succ _)
    change (s.running.bind requestNow).toList++(s.executor++[_]).filterMap requestOf=_
    rw [filterMap_append,filterMap_cons_none rfl,filterMap_nil,append_nil]
    rfl
  | begin => exact queued_begin h hpossible.1 hpossible.2
  | proceed running ok => exact queued_proceed h hpossible ok

end

/-- What is not synchronized yet is requested first. -/
theorem queued_create (assets : AssetsManager) (storage : Storage) : Queued (create assets storage) := by
  have hnone : ∀ s : Setting,s.running=none → s.executor=[] → s.pendingRequest=none → Queued s := by
    intro s hrunning hexecutor hpending
    have hchanges : changes s=[] := by
      unfold changes
      rw [hrunning,hexecutor]
      rfl
    refine ⟨?_,?_,fun other hother => ?_⟩
    · rw [hpending,hchanges,List.getLast?_nil]
    · rw [hchanges]
      exact List.Pairwise.nil
    · rw [hchanges] at hother
      cases hother
  unfold create
  dsimp only
  split
  · exact (hnone _ rfl rfl rfl).submit ..
  · have hempty : Queued {construct assets with
        locales := restoredLocales assets storage
        wakeWords := (restoredWakeWords assets storage).2
        localeStatus := storage.locales.status
        wakeWordsStatus := (restoredWakeWords assets storage).1} := hnone _ rfl rfl rfl
    exact hempty.same rfl rfl le_rfl

end AlexaClientSDK.PendingRequests
