import AlexaClientSDK.AlertAgreement

/-!
# Notifications of alerts

A notification names an alert by its token, and comes late. Some act on the alert with the token, others on the active
one, whatever its token, and the rows are found by the id of the alert.
-/

namespace AlexaClientSDK.AlertNotices

open List Alerts AlertStorage AlertScheduler AlertAgreement Scheduler

section

structure KeepsOthers (token : String) (storage storage' : Storage) : Prop where
  alerts : storage'.alerts.filter (fun row => decide (row.token≠token)) =
    storage.alerts.filter fun row => decide (row.token≠token)
  alertAssets : ∀ row∈storage.alerts,row.token≠token →
    storage'.alertAssets.filter (fun asset => decide (asset.alertId=row.id)) =
      storage.alertAssets.filter fun asset => decide (asset.alertId=row.id)
  alertAssetPlayOrderItems : ∀ row∈storage.alerts,row.token≠token →
    storage'.alertAssetPlayOrderItems.filter (fun item => decide (item.alertId=row.id)) =
      storage.alertAssetPlayOrderItems.filter fun item => decide (item.alertId=row.id)

/-- No row of another token has the id, unless with the same state and time. -/
def ModifiesOwnRow (storage : Storage) (alert : Alert) : Prop :=
  storage.alertExists alert.token=true →
    ∀ row∈storage.alerts,row.token≠alert.token → row.id=alert.id → modifiedRow alert row=row

/-- If the alert can be erased, no row of another token has its id. -/
def ErasesOwnRow (storage : Storage) (alert : Alert) : Prop :=
  storage.alertExists alert.token=true → ∀ row∈storage.alerts,row.token≠alert.token → row.id≠alert.id

variable {storage : Storage} {alert : Alert}

theorem KeepsOthers.refl (token : String) (storage : Storage) : KeepsOthers token storage storage :=
  ⟨rfl,fun _ _ _ => rfl,fun _ _ _ => rfl⟩

theorem keepsOthers_modify_iff :
    KeepsOthers alert.token storage ((storage.modify alert).getD storage) ↔ ModifiesOwnRow storage alert := by
  unfold ModifiesOwnRow
  rw [Storage.modify_eq]
  cases storage.alertExists alert.token with
  | false =>
    rw [if_neg Bool.false_ne_true]
    exact iff_of_true (KeepsOthers.refl _ _) fun h => absurd h Bool.false_ne_true
  | true =>
    have hfilter : (storage.alerts.map fun row => if row.id=alert.id then modifiedRow alert row else row).filter
          (fun row => decide (row.token≠alert.token)) =
        (storage.alerts.filter fun row => decide (row.token≠alert.token)).map
          fun row => if row.id=alert.id then modifiedRow alert row else row := by
      rw [filter_map]
      refine congrArg (List.map _) (filter_congr fun row _ => ?_)
      dsimp only [Function.comp]
      split
      · rfl
      · rfl
    rw [if_pos rfl,Option.getD_some]
    constructor
    · rintro ⟨hrows,-,-⟩ - row hrow htoken hid
      rw [hfilter] at hrows
      have hsame := map_inj_left.mp (hrows.trans (map_id _).symm) row (mem_filter.mpr ⟨hrow,decide_eq_true htoken⟩)
      rw [if_pos hid] at hsame
      exact hsame
    · intro hown
      refine ⟨?_,fun _ _ _ => rfl,fun _ _ _ => rfl⟩
      rw [hfilter]
      refine (map_congr_left fun row hrow => ?_).trans (map_id _)
      obtain ⟨hmem,htoken⟩ := mem_filter.mp hrow
      split
      · next hid => exact hown rfl row hmem (of_decide_eq_true htoken) hid
      · rfl

theorem keepsOthers_erase_iff :
    KeepsOthers alert.token storage ((storage.erase alert).getD storage) ↔ ErasesOwnRow storage alert := by
  unfold ErasesOwnRow Storage.erase
  cases storage.alertExists alert.token with
  | false =>
    rw [if_neg Bool.false_ne_true]
    exact iff_of_true (KeepsOthers.refl _ _) fun h => absurd h Bool.false_ne_true
  | true =>
    rw [if_pos rfl,Option.getD_some]
    unfold Storage.eraseAlertByAlertId
    constructor
    · rintro ⟨hrows,-,-⟩ - row hrow htoken
      have hmem : row∈storage.alerts.filter fun row => decide (row.token≠alert.token) :=
        mem_filter.mpr ⟨hrow,decide_eq_true htoken⟩
      rw [←hrows] at hmem
      exact of_decide_eq_true (mem_filter.mp (mem_filter.mp hmem).1).2
    · intro hown
      refine ⟨?_,fun row hrow htoken => ?_,fun row hrow htoken => ?_⟩
      · rw [filter_filter]
        refine filter_congr fun row hrow => ?_
        by_cases htoken : row.token=alert.token
        · rw [decide_eq_false (not_not.mpr htoken),Bool.false_and]
        · rw [decide_eq_true htoken,decide_eq_true (hown rfl row hrow htoken),Bool.true_and]
      · rw [filter_filter]
        refine filter_congr fun asset _ => ?_
        by_cases hid : asset.alertId=row.id
        · rw [hid,decide_eq_true (hown rfl row hrow htoken),Bool.and_true]
        · rw [decide_eq_false hid,Bool.false_and]
      · rw [filter_filter]
        refine filter_congr fun item _ => ?_
        by_cases hid : item.alertId=row.id
        · rw [hid,decide_eq_true (hown rfl row hrow htoken),Bool.and_true]
        · rw [decide_eq_false hid,Bool.false_and]

end

section

/-- It has touched at most the alerts with its token, and there is no null pointer. -/
structure TouchesOnly (token : String) (s s' : Scheduler) : Prop where
  active : s'.activeAlert.filter (fun alert => decide (alert.token≠token)) =
    s.activeAlert.filter fun alert => decide (alert.token≠token)
  scheduled : s'.scheduledAlerts.filter (fun alert => decide (alert.token≠token)) =
    s.scheduledAlerts.filter fun alert => decide (alert.token≠token)
  stored : KeepsOthers token s.storage s'.storage
  noNull : s'.nullScheduled=false

/-- The alert that a notification of a stop or an error acts on. -/
def noticedAlert (s : Scheduler) (token : String) : Option Alert :=
  if s.isActiveToken token then s.activeAlert else s.getAlertLocked token

/-- It concerns the alert that it acts on, and that the row it is found by. -/
def Concerns (s : Scheduler) (token : String) : ObserverState → Prop
  | .started => ∀ alert∈s.activeAlert,alert.state=.activating →
    alert.token=token ∧ ModifiesOwnRow s.storage (alert.withState .active)
  | .stopped => ∀ alert∈noticedAlert s token,ErasesOwnRow s.storage alert
  | .completed => ∀ alert∈s.activeAlert,alert.token=token ∧ ErasesOwnRow s.storage alert
  | .snoozed => ∃ alert∈s.activeAlert,alert.token=token ∧ ModifiesOwnRow s.storage alert
  | .error => ∀ alert∈noticedAlert s token,ErasesOwnRow s.storage alert
  | _ => True

variable {s s' : Scheduler} {token : String}

/-- What a notification touches can be told from the four parts. -/
theorem touchesOnly_iff_parts {active : Option Alert} {scheduled : List Alert} {storage : Storage} {null : Bool}
    (hactive : s'.activeAlert=active) (hscheduled : s'.scheduledAlerts=scheduled)
    (hstorage : s'.storage=storage) (hnull : s'.nullScheduled=null) : TouchesOnly token s s' ↔
      active.filter (fun alert => decide (alert.token≠token)) =
          s.activeAlert.filter (fun alert => decide (alert.token≠token)) ∧
        scheduled.filter (fun alert => decide (alert.token≠token)) =
          s.scheduledAlerts.filter (fun alert => decide (alert.token≠token)) ∧
        KeepsOthers token s.storage storage ∧ null=false := by
  subst hactive hscheduled hstorage hnull
  exact ⟨fun h => ⟨h.active,h.scheduled,h.stored,h.noNull⟩,fun h => ⟨h.1,h.2.1,h.2.2.1,h.2.2.2⟩⟩

theorem touchesOnly_notifyObserver_iff {told : String} {state : ObserverState} :
    TouchesOnly token s (s'.notifyObserver told state) ↔ TouchesOnly token s s' :=
  ⟨fun h => ⟨h.active,h.scheduled,h.stored,h.noNull⟩,fun h => ⟨h.active,h.scheduled,h.stored,h.noNull⟩⟩

theorem touchesOnly_of_notifyObserver_iff (told : String) (state : ObserverState) :
    TouchesOnly token (s.notifyObserver told state) s' ↔ TouchesOnly token s s' :=
  ⟨fun h => ⟨h.active,h.scheduled,h.stored,h.noNull⟩,fun h => ⟨h.active,h.scheduled,h.stored,h.noNull⟩⟩

theorem touchesOnly_setTimerForNextAlertLocked_iff {now : Option ℤ} :
    TouchesOnly token s (s'.setTimerForNextAlertLocked now) ↔ TouchesOnly token s s' := by
  obtain ⟨hactive,hscheduled,hstorage,hnull⟩ := s'.setTimerForNextAlertLocked_parts now
  exact (touchesOnly_iff_parts hactive hscheduled hstorage hnull).trans (touchesOnly_iff_parts rfl rfl rfl rfl).symm

variable {alert : Alert}

/-- Another one is active afterwards exactly when the token is not its own. -/
theorem active_filter_iff {changed : Option Alert} (hchanged : changed≠some alert)
    (htokens : ∀ other∈changed,other.token=alert.token) : changed.filter (fun other => decide (other.token≠token)) =
        (some alert).filter (fun other => decide (other.token≠token)) ↔ alert.token=token := by
  by_cases htoken : alert.token=token
  · have hnone : changed.filter (fun other => decide (other.token≠token))=none := by
      rw [Option.filter_eq_none_iff]
      intro other hother hne
      exact of_decide_eq_true hne ((htokens other hother).trans htoken)
    rw [hnone,Option.filter_some,if_neg (by rw [decide_eq_true_iff,not_not]; exact htoken)]
    exact iff_of_true rfl htoken
  · refine iff_of_false (fun heq => hchanged ?_) htoken
    rw [Option.filter_some,if_pos (decide_eq_true htoken)] at heq
    exact (Option.filter_eq_some_iff.mp heq).1

theorem insertAlert_filter (htoken : alert.token=token) (alerts : List Alert) :
    (insertAlert alert alerts).filter (fun other => decide (other.token≠token)) =
      alerts.filter fun other => decide (other.token≠token) := by
  have hskip : ∀ alerts : List Alert,(alert::alerts).filter (fun other => decide (other.token≠token)) =
      alerts.filter fun other => decide (other.token≠token) := fun alerts =>
    filter_cons_of_neg (by rw [decide_eq_true_iff,not_not]; exact htoken)
  induction alerts with
  | nil => exact hskip []
  | cons other alerts ih =>
    rw [insertAlert]
    split
    · exact hskip (other::alerts)
    · split
      · rw [filter_cons,filter_cons,ih]
      · rfl

theorem eraseFromSet_filter (htoken : alert.token=token) (alerts : List Alert) :
    (eraseFromSet alert alerts).filter (fun other => decide (other.token≠token)) =
      alerts.filter fun other => decide (other.token≠token) := by
  unfold eraseFromSet
  rw [filter_filter]
  refine filter_congr fun other _ => ?_
  by_cases hother : other.token=token
  · rw [decide_eq_false (not_not.mpr hother),Bool.false_and]
  · have hdiffer : (TimeComparator other alert || TimeComparator alert other)=true := by
      rw [←Bool.not_eq_false,comparator_eq_false_iff]
      exact fun hboth => hother (hboth.2.trans htoken)
    rw [hdiffer,Bool.and_true]

theorem touchesOnly_self_iff : TouchesOnly token s s ↔ s.nullScheduled=false := by
  rw [touchesOnly_iff_parts rfl rfl rfl rfl]
  exact ⟨fun h => h.2.2.2,fun h => ⟨rfl,rfl,KeepsOthers.refl _ _,h⟩⟩

theorem touchesOnly_eraseActiveAlert_iff : TouchesOnly token s s.eraseActiveAlert ↔
      s.nullScheduled=false ∧ ∀ alert∈s.activeAlert,alert.token=token ∧ ErasesOwnRow s.storage alert := by
  cases hactive : s.activeAlert with
  | none =>
    have hidle : s.eraseActiveAlert=s := by
      unfold eraseActiveAlert
      rw [hactive]
    rw [hidle,touchesOnly_self_iff]
    exact (and_iff_left fun alert halert => absurd halert (Option.not_mem_none alert)).symm
  | some alert =>
    obtain ⟨-,hscheduled,hstorage,hnull⟩ := s.eraseAlert_parts alert
    have herased : s.eraseActiveAlert={s.eraseAlert alert with activeAlert := none} := by
      unfold eraseActiveAlert
      rw [hactive]
    have hnone : ({s.eraseAlert alert with activeAlert := none} : Scheduler).activeAlert=none := rfl
    rw [herased,touchesOnly_iff_parts hnone hscheduled hstorage hnull,hactive,
      active_filter_iff (Option.some_ne_none alert).symm fun other hother =>
      absurd hother (Option.not_mem_none other)]
    simp only [Option.mem_some_iff,forall_eq']
    constructor
    · rintro ⟨rfl,-,hstored,hno⟩
      exact ⟨hno,rfl,keepsOthers_erase_iff.mp hstored⟩
    · rintro ⟨hno,rfl,hown⟩
      exact ⟨rfl,trivial,keepsOthers_erase_iff.mpr hown,hno⟩

theorem touchesOnly_eraseAlert_iff (htoken : alert.token=token)
    (hactive : s'.activeAlert=(s.eraseAlert alert).activeAlert)
    (hscheduled : s'.scheduledAlerts.filter (fun other => decide (other.token≠token)) =
      (s.eraseAlert alert).scheduledAlerts.filter fun other => decide (other.token≠token))
    (hstorage : s'.storage=(s.eraseAlert alert).storage) (hnull : s'.nullScheduled=(s.eraseAlert alert).nullScheduled) :
    TouchesOnly token s s' ↔ s.nullScheduled=false ∧ ErasesOwnRow s.storage alert := by
  obtain ⟨hactive',hscheduled',hstorage',hnull'⟩ := s.eraseAlert_parts alert
  rw [hscheduled'] at hscheduled
  rw [touchesOnly_iff_parts (hactive.trans hactive') rfl (hstorage.trans hstorage') (hnull.trans hnull')]
  subst htoken
  constructor
  · rintro ⟨-,-,hstored,hno⟩
    exact ⟨hno,keepsOthers_erase_iff.mp hstored⟩
  · rintro ⟨hno,hown⟩
    exact ⟨rfl,hscheduled,keepsOthers_erase_iff.mpr hown,hno⟩

end

section

section

variable (s)

section

variable (token)

theorem touchesOnly_noticed_iff {s s' : Scheduler} {token : String}
    (hactive : s.isActiveToken token=true → (TouchesOnly token s s' ↔ TouchesOnly token s s.eraseActiveAlert))
    (hfound : ∀ alert,s.getAlertLocked token=some alert → s.isActiveToken token=false →
      (TouchesOnly token s s' ↔ s.nullScheduled=false ∧ ErasesOwnRow s.storage alert))
    (hnone : s.getAlertLocked token=none → s.isActiveToken token=false →
      (TouchesOnly token s s' ↔ TouchesOnly token s s)) :
    TouchesOnly token s s' ↔ s.nullScheduled=false ∧ ∀ alert∈noticedAlert s token,ErasesOwnRow s.storage alert := by
  unfold noticedAlert
  cases hsame : s.isActiveToken token with
  | true =>
    obtain ⟨alert,hsome,rfl⟩ := isActiveToken_iff.mp hsame
    rw [hactive hsame,touchesOnly_eraseActiveAlert_iff,if_pos rfl,hsome]
    simp only [Option.mem_some_iff,forall_eq',true_and]
  | false =>
    rw [if_neg Bool.false_ne_true]
    cases hget : s.getAlertLocked token with
    | none =>
      rw [hnone hget hsame,touchesOnly_self_iff]
      exact (and_iff_left fun alert halert => absurd halert (Option.not_mem_none alert)).symm
    | some alert =>
      rw [hfound alert hget hsame]
      simp only [Option.mem_some_iff,forall_eq']

section

variable (now : Option ℤ)

theorem touchesOnly_started_iff : TouchesOnly token s (s.executeOnAlertStateChange token .started now) ↔
      s.nullScheduled=false ∧ Concerns s token .started := by
  unfold executeOnAlertStateChange Concerns
  cases hactive : s.activeAlert with
  | none =>
    refine touchesOnly_self_iff.trans ?_
    exact (and_iff_left fun alert halert => absurd halert (Option.not_mem_none alert)).symm
  | some alert =>
    simp only [Option.mem_some_iff,forall_eq']
    split
    · next hactivating =>
      have hchanged : alert.withState .active≠alert := fun heq => by
        have hstate := congrArg Alert.state heq
        rw [hactivating] at hstate
        exact State.noConfusion hstate
      have hkept : ∀ other∈some (alert.withState .active),other.token=alert.token := fun other hother => by
        rw [←Option.some.inj (Option.mem_def.mp hother)]
        rfl
      rw [forall_prop_of_true hactivating,touchesOnly_notifyObserver_iff]
      refine Iff.trans (touchesOnly_iff_parts (show _=some (alert.withState .active) from rfl) rfl rfl rfl) ?_
      rw [hactive,active_filter_iff (fun heq => hchanged (Option.some.inj heq)) hkept]
      constructor
      · rintro ⟨rfl,-,hstored,hno⟩
        exact ⟨hno,rfl,keepsOthers_modify_iff.mp hstored⟩
      · rintro ⟨hno,rfl,hown⟩
        exact ⟨rfl,rfl,keepsOthers_modify_iff.mpr hown,hno⟩
    · next hidle =>
      refine touchesOnly_self_iff.trans ?_
      exact (and_iff_left fun hactivating => absurd hactivating hidle).symm

theorem touchesOnly_stopped_iff : TouchesOnly token s (s.executeOnAlertStateChange token .stopped now) ↔
      s.nullScheduled=false ∧ Concerns s token .stopped := by
  have hiff := @touchesOnly_noticed_iff (s.notifyObserver token .stopped)
    (s.executeOnAlertStateChange token .stopped now) token
  rw [touchesOnly_of_notifyObserver_iff] at hiff
  refine hiff (fun hactive => ?_) (fun alert hfound hactive => ?_) (fun hnone hactive => ?_)
  · unfold executeOnAlertStateChange
    rw [if_pos hactive,touchesOnly_setTimerForNextAlertLocked_iff,touchesOnly_of_notifyObserver_iff]
  · unfold executeOnAlertStateChange
    rw [if_neg (by rw [hactive]; exact Bool.false_ne_true),hfound]
    rw [touchesOnly_setTimerForNextAlertLocked_iff,←touchesOnly_of_notifyObserver_iff token .stopped]
    exact touchesOnly_eraseAlert_iff (getAlertLocked_facts hfound).2 rfl rfl rfl rfl
  · unfold executeOnAlertStateChange
    rw [if_neg (by rw [hactive]; exact Bool.false_ne_true),hnone]
    rw [touchesOnly_setTimerForNextAlertLocked_iff,touchesOnly_of_notifyObserver_iff]

theorem touchesOnly_error_iff : TouchesOnly token s (s.executeOnAlertStateChange token .error now) ↔
      s.nullScheduled=false ∧ Concerns s token .error := by
  refine touchesOnly_noticed_iff (fun hactive => ?_) (fun alert hfound hactive => ?_) (fun hnone hactive => ?_)
  · unfold executeOnAlertStateChange
    rw [if_pos hactive,touchesOnly_notifyObserver_iff,touchesOnly_setTimerForNextAlertLocked_iff]
  · unfold executeOnAlertStateChange
    dsimp only
    rw [if_neg (by rw [hactive]; exact Bool.false_ne_true),hfound]
    rw [touchesOnly_notifyObserver_iff,touchesOnly_setTimerForNextAlertLocked_iff]
    have htoken := (getAlertLocked_facts hfound).2
    exact touchesOnly_eraseAlert_iff htoken rfl (eraseFromSet_filter htoken _) rfl rfl
  · unfold executeOnAlertStateChange
    dsimp only
    rw [if_neg (by rw [hactive]; exact Bool.false_ne_true),hnone]
    rw [touchesOnly_notifyObserver_iff]

theorem touchesOnly_completed_iff : TouchesOnly token s (s.executeOnAlertStateChange token .completed now) ↔
      s.nullScheduled=false ∧ Concerns s token .completed := by
  unfold executeOnAlertStateChange
  rw [touchesOnly_setTimerForNextAlertLocked_iff,←touchesOnly_of_notifyObserver_iff token .completed]
  exact touchesOnly_eraseActiveAlert_iff

theorem touchesOnly_snoozed_iff : TouchesOnly token s (s.executeOnAlertStateChange token .snoozed now) ↔
      s.nullScheduled=false ∧ Concerns s token .snoozed := by
  unfold executeOnAlertStateChange Concerns
  cases hactive : s.activeAlert with
  | none =>
    refine iff_of_false (fun h => Bool.noConfusion h.noNull) ?_
    rintro ⟨-,alert,halert,-⟩
    exact Option.not_mem_none alert halert
  | some alert =>
    rw [touchesOnly_setTimerForNextAlertLocked_iff,touchesOnly_notifyObserver_iff]
    refine Iff.trans (touchesOnly_iff_parts (show _=none from rfl) rfl rfl rfl) ?_
    rw [hactive,active_filter_iff (Option.some_ne_none alert).symm fun other hother =>
      absurd hother (Option.not_mem_none other)]
    simp only [Option.mem_some_iff,exists_eq_left']
    constructor
    · rintro ⟨rfl,-,hstored,hno⟩
      exact ⟨hno,rfl,keepsOthers_modify_iff.mp hstored⟩
    · rintro ⟨hno,rfl,hown⟩
      exact ⟨rfl,insertAlert_filter rfl _,keepsOthers_modify_iff.mpr hown,hno⟩

end

end

end

/-- A notification touches only the alerts with its token exactly when the set has no null pointer, and the notification
concerns the alert that it acts on. -/
theorem touchesOnly_iff (s : Scheduler) (token : String) (state : ObserverState) (now : Option ℤ) :
    TouchesOnly token s (s.executeOnAlertStateChange token state now) ↔
      s.nullScheduled=false ∧ Concerns s token state := by
  have hself : ∀ s' : Scheduler,(TouchesOnly token s s' ↔ TouchesOnly token s s) →
      (TouchesOnly token s s' ↔ s.nullScheduled=false ∧ True) := fun s' h =>
    (h.trans touchesOnly_self_iff).trans (and_iff_left trivial).symm
  cases state with
  | ready => exact hself _ touchesOnly_notifyObserver_iff
  | started => exact touchesOnly_started_iff s token now
  | stopped => exact touchesOnly_stopped_iff s token now
  | snoozed => exact touchesOnly_snoozed_iff s token now
  | completed => exact touchesOnly_completed_iff s token now
  | error => exact touchesOnly_error_iff s token now
  | pastDue | focusEnteredForeground | focusEnteredBackground | deleted | scheduledForLater => exact hself _ Iff.rfl

/-- The alert before is said to be complete late: the next one is erased. -/
theorem late_completion_erases_next :
    ¬∀ (convert : String → Option ℤ) (limit : ℤ) (events : List Event) (s : Scheduler),
      LabelledRuns.Run (Step convert limit) (new createDatabase) events s →
      ∀ token state now,TouchesOnly token s (s.executeOnAlertStateChange token state now) := by
  intro hall
  have hrun : LabelledRuns.Run (Step (fun _ => none) 1800) (new createDatabase) _ _ :=
    ((((((LabelledRuns.Run.refl.snoc (.scheduleAlert (alarmAt "a" 10) (some 0))).snoc
      (.scheduleAlert (alarmAt "b" 20) (some 0))).snoc (.updateFocus .foreground)).snoc
      (.onAlertStateChange "a" .started (some 10))).snoc (.deleteAlerts ["a"] (some 11))).snoc
      (.updateFocus .none)).snoc (.updateFocus .foreground)
  have hwrong := (hall _ _ _ _ hrun "a" .completed (some 12)).active
  revert hwrong
  decide

end

end AlexaClientSDK.AlertNotices
