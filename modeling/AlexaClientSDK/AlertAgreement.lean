import Mathlib.Data.String.Basic
import AlexaClientSDK.KeyedLists
import AlexaClientSDK.AlertScheduler

/-!
# The scheduler and its storage

The alerts in memory, the scheduled ones and the active one, should be those in the storage, each once. Clearing while
an alert is active, and stopping an alert that was scheduled again, change one side only; where this does not happen,
the two sides agree.
-/

namespace AlexaClientSDK.AlertAgreement

open Bool List LabelledRuns KeyedLists FocusChannel Alerts AlertStorage AlertScheduler Scheduler Alert Storage

/-- Two alerts are equal for the set where their times and tokens are. -/
theorem comparator_eq_false_iff (alert other : Alert) :
    (TimeComparator other alert || TimeComparator alert other)=false ↔
      scheduledTimeUnix other=scheduledTimeUnix alert ∧ other.token=alert.token := by
  unfold TimeComparator
  by_cases htime : scheduledTimeUnix other=scheduledTimeUnix alert
  · rw [if_pos htime,if_pos htime.symm,or_eq_false_iff,decide_eq_false_iff_not,
      decide_eq_false_iff_not,not_lt,not_lt]
    constructor
    · rintro ⟨hle,hge⟩
      exact ⟨htime,le_antisymm hge hle⟩
    · rintro ⟨_,htoken⟩
      exact ⟨ge_of_eq htoken,le_of_eq htoken⟩
  · rw [if_neg htime,if_neg fun heq => htime heq.symm,or_eq_false_iff,decide_eq_false_iff_not,
      decide_eq_false_iff_not,not_lt,not_lt]
    constructor
    · rintro ⟨hle,hge⟩
      exact absurd (le_antisymm hge hle) htime
    · rintro ⟨heq,_⟩
      exact absurd heq htime

variable {alert : Alert} {alerts : List Alert}

/-- An alert with a token of its own joins the set. -/
theorem insertAlert_perm (h : ∀ other∈alerts,other.token≠alert.token) :
    (insertAlert alert alerts).Perm (alert::alerts) := by
  induction alerts with
  | nil => exact List.Perm.refl _
  | cons other alerts ih =>
    unfold insertAlert
    split
    · exact List.Perm.refl _
    · split
      · exact ((ih fun another hanother => h another (mem_cons_of_mem _ hanother)).cons other).trans
          (List.Perm.swap alert other alerts)
      · rename_i hless hgreater
        have hequal := (comparator_eq_false_iff alert other).mp
          (or_eq_false_iff.mpr ⟨eq_false_iff.mpr hgreater,eq_false_iff.mpr hless⟩)
        exact absurd hequal.2 (h other mem_cons_self)

/-- An alert is taken out by its token, when no other time stands under it. -/
theorem eraseFromSet_eq (h : ∀ other∈alerts,other.token=alert.token → scheduledTimeUnix other=scheduledTimeUnix alert) :
    eraseFromSet alert alerts=alerts.filter fun other => decide (other.token≠alert.token) := by
  refine filter_congr ?_
  intro other hother
  by_cases htoken : other.token=alert.token
  · rw [(comparator_eq_false_iff alert other).mpr ⟨h other hother htoken,htoken⟩]
    simp [htoken]
  · have hdiffer : (TimeComparator other alert || TimeComparator alert other)=true := by
      rw [←not_eq_false,comparator_eq_false_iff]
      exact fun hboth => htoken hboth.2
    rw [hdiffer]
    simp [htoken]

/-- What a row has to have of an alert. -/
def alertKey (alert : Alert) : ℕ × String := (alert.id,alert.token)

def rowKey (row : AlertRow) : ℕ × String := (row.id,row.token)

/-- The alerts in memory are those of the storage; no id and no token occurs twice. -/
structure Agree (storage : Storage) (memory : List Alert) : Prop where
  same : (memory.map alertKey).Perm (storage.alerts.map rowKey)
  ids : ((storage.alerts.map rowKey).map Prod.fst).Nodup
  tokens : ((storage.alerts.map rowKey).map Prod.snd).Nodup

variable {storage storage' : Storage} {memory memory' : List Alert}

theorem tokens_eq (memory : List Alert) : (memory.map alertKey).map Prod.snd=memory.map token := by
  rw [map_map]
  rfl

section

variable (h : Agree storage memory)
include h

/-- No two alerts have one token. -/
theorem Agree.nodup : (memory.map token).Nodup := by
  rw [←tokens_eq]
  exact (h.same.map Prod.snd).nodup_iff.mpr h.tokens

/-- An alert is known by its token. -/
theorem Agree.eq_of_token {other : Alert} (halert : alert∈memory)
    (hother : other∈memory) (htoken : other.token=alert.token) : other=alert :=
  inj_on_of_nodup_map h.nodup hother halert htoken

/-- The storage has rows for the tokens in memory. -/
theorem Agree.alertExists_iff (token : String) : storage.alertExists token=true ↔ token∈memory.map Alert.token := by
  rw [←tokens_eq,(h.same.map Prod.snd).mem_iff,map_map]
  unfold alertExists
  rw [any_eq_true]
  constructor
  · rintro ⟨row,hrow,heq⟩
    exact mem_map.mpr ⟨row,hrow,of_decide_eq_true heq⟩
  · intro hmem
    obtain ⟨row,hrow,heq⟩ := mem_map.mp hmem
    exact ⟨row,hrow,decide_eq_true heq⟩

/-- Alerts and rows change, but not in their ids and tokens. -/
theorem Agree.congr (hmemory : (memory'.map alertKey).Perm (memory.map alertKey))
    (hrows : storage'.alerts.map rowKey=storage.alerts.map rowKey) : Agree storage' memory' := by
  refine ⟨?_,?_,?_⟩
  · rw [hrows]
    exact hmemory.trans h.same
  · rw [hrows]
    exact h.ids
  · rw [hrows]
    exact h.tokens

theorem Agree.perm (hmemory : memory'.Perm memory) : Agree storage memory' :=
  h.congr (hmemory.map alertKey) rfl

end

/-- Modifying an alert leaves the keys of the rows. -/
theorem modify_keys (h : storage.modify alert=some storage') :
    storage'.alerts.map rowKey=storage.alerts.map rowKey := by
  unfold Storage.modify at h
  split at h
  · cases h
    rw [map_map]
    refine map_congr_left ?_
    intro row _
    dsimp only [Function.comp]
    split
    · rfl
    · rfl
  · cases h

/-- A stored alert joins both. -/
theorem Agree.store (h : Agree storage memory) {alert' : Alert} (hstore : storage.store alert=some (storage',alert'))
    (hmemory : memory'.Perm (alert'::memory)) : Agree storage' memory' := by
  unfold Storage.store at hstore
  split at hstore
  · cases hstore
  · rename_i hnew
    cases hstore
    refine ⟨?_,?_,?_⟩
    · refine (hmemory.map alertKey).trans ?_
      rw [map_append,map_cons]
      exact (h.same.cons _).trans (perm_append_singleton _ _).symm
    · rw [map_append,map_append]
      refine h.ids.append (nodup_singleton _) ?_
      intro id hid hid'
      rw [map_map] at hid
      have hle : id≤_ := le_getTableMaxIntValue hid
      rw [mem_singleton.mp hid'] at hle
      exact Nat.not_succ_le_self _ hle
    · rw [map_append,map_append]
      refine h.tokens.append (nodup_singleton _) ?_
      intro token htoken htoken'
      refine hnew ?_
      rw [h.alertExists_iff,←tokens_eq,(h.same.map Prod.snd).mem_iff]
      rw [mem_singleton.mp htoken'] at htoken
      exact htoken

/-- An alert is stored under a token that is new. -/
theorem store_facts {alert' : Alert} (hstore : storage.store alert=some (storage',alert')) :
    storage.alertExists alert.token=false ∧ alert'.token=alert.token := by
  unfold store at hstore
  split at hstore
  · cases hstore
  · rename_i hnew
    cases hstore
    exact ⟨eq_false_iff.mpr hnew,rfl⟩

/-- An alert in memory can be erased, and leaves both. -/
theorem Agree.erase (h : Agree storage memory) (hmem : alert∈memory) : ∃ storage',storage.erase alert=some storage' ∧
      Agree storage' (memory.filter fun other => decide (other.token≠alert.token)) := by
  have hexists : storage.alertExists alert.token=true :=
    (h.alertExists_iff alert.token).mpr (mem_map_of_mem hmem)
  refine ⟨storage.eraseAlertByAlertId alert.id,?_,?_,?_,?_⟩
  · unfold Storage.erase
    rw [if_pos hexists]
  · -- on both sides the alert is found by its id or by its token
    have hids : ((memory.map alertKey).map Prod.fst).Nodup :=
      (h.same.map Prod.fst).nodup_iff.mpr h.ids
    have hmemory : (memory.filter fun other => decide (other.token≠alert.token)).map alertKey =
        (memory.map alertKey).filter fun key => decide (key.1≠alert.id) := by
      rw [filter_map]
      congr 1
      refine filter_congr ?_
      intro other hother
      refine decide_eq_decide.mpr (not_congr ⟨fun htoken => ?_,fun hid => ?_⟩)
      · rw [h.eq_of_token hmem hother htoken]
        rfl
      · rw [map_map] at hids
        have heq : other=alert := inj_on_of_nodup_map hids hother hmem hid
        rw [heq]
    have hrows : (storage.eraseAlertByAlertId alert.id).alerts.map rowKey =
        (storage.alerts.map rowKey).filter fun key => decide (key.1≠alert.id) := by
      rw [filter_map]
      rfl
    rw [hmemory,hrows]
    exact h.same.filter _
  · exact h.ids.sublist ((filter_sublist.map _).map _)
  · exact h.tokens.sublist ((filter_sublist.map _).map _)

/-- Alerts that are erased together all have rows. -/
theorem exists_of_bulkErase (h : storage.bulkErase alerts=some storage') :
    ∀ alert∈alerts,storage.alertExists alert.token=true := by
  induction alerts generalizing storage with
  | nil =>
    intro alert halert
    cases halert
  | cons first alerts ih =>
    unfold bulkErase at h
    split at h
    · cases h
    · rename_i between herase
      unfold erase at herase
      split at herase
      · rename_i hfirst
        cases herase
        intro alert halert
        rcases List.mem_cons.mp halert with rfl|halert
        · exact hfirst
        · obtain ⟨row,hrow,heq⟩ := List.any_eq_true.mp (ih h alert halert)
          exact List.any_eq_true.mpr ⟨row,(List.mem_filter.mp hrow).1,heq⟩
      · cases herase

/-- Alerts that are erased together leave both. -/
theorem Agree.bulkErase (h : Agree storage memory)
    (hmem : ∀ alert∈alerts,alert∈memory) (herase : storage.bulkErase alerts=some storage') :
    Agree storage' (memory.filter fun other => decide (other.token∉alerts.map token)) := by
  induction alerts generalizing storage memory with
  | nil =>
    cases herase
    simpa using h
  | cons alert alerts ih =>
    obtain ⟨between,hbetween,hagree⟩ := h.erase (hmem alert mem_cons_self)
    unfold bulkErase at herase
    rw [hbetween] at herase
    have hrest : ∀ other∈alerts, other∈memory.filter fun other => decide (other.token≠alert.token) := by
      intro other hother
      have hexists := exists_of_bulkErase herase other hother
      rw [hagree.alertExists_iff] at hexists
      obtain ⟨same,hsame,htoken⟩ := mem_map.mp hexists
      refine mem_filter.mpr ⟨hmem other (mem_cons_of_mem _ hother),?_⟩
      rw [←htoken]
      exact (mem_filter.mp hsame).2
    have hdone := ih hagree hrest herase
    rw [filter_filter] at hdone
    refine hdone.perm (List.Perm.of_eq (filter_congr ?_))
    intro other _
    by_cases htoken : other.token=alert.token
    · simp [htoken]
    · simp [htoken]

/-- The scheduled alerts and the active one. -/
def memoryOf (s : Scheduler) : List Alert := s.scheduledAlerts++s.activeAlert.toList

/-- What holds after every operation. -/
structure Good (s : Scheduler) : Prop where
  agree : Agree s.storage (memoryOf s)
  noNull : s.nullScheduled=false

variable {s s' : Scheduler}

section

variable (h : Good s)
include h

/-- What the timer and the observer see does not matter. -/
theorem Good.frame (hstorage : s'.storage=s.storage)
    (hscheduled : s'.scheduledAlerts=s.scheduledAlerts) (hactive : s'.activeAlert=s.activeAlert)
    (hnull : s'.nullScheduled=s.nullScheduled) : Good s' := by
  refine ⟨?_,?_⟩
  · unfold memoryOf
    rw [hstorage,hscheduled,hactive]
    exact h.agree
  · rw [hnull]
    exact h.noNull

theorem Good.notifyObserver (token : String) (state : ObserverState) : Good (s.notifyObserver token state) :=
  h.frame rfl rfl rfl rfl

theorem Good.setTimerForNextAlertLocked (now : Option ℤ) : Good (s.setTimerForNextAlertLocked now) := by
  unfold Scheduler.setTimerForNextAlertLocked
  split
  · dsimp only
    split
    · exact h.frame rfl rfl rfl rfl
    · split
      · split
        · exact h.frame rfl rfl rfl rfl
        · exact h.frame rfl rfl rfl rfl
      · exact h.frame rfl rfl rfl rfl
  · exact h

theorem Good.setTimerIfIdle (now : Option ℤ) : Good (s.setTimerIfIdle now) := by
  unfold Scheduler.setTimerIfIdle
  split
  · exact h.setTimerForNextAlertLocked now
  · exact h

/-- Alerts change in memory, but not in their ids and tokens. -/
theorem Good.change (hstorage : s'.storage.alerts.map rowKey=s.storage.alerts.map rowKey)
    (hscheduled : (s'.scheduledAlerts.map alertKey).Perm (s.scheduledAlerts.map alertKey))
    (hactive : s'.activeAlert.map alertKey=s.activeAlert.map alertKey)
    (hnull : s'.nullScheduled=s.nullScheduled) : Good s' := by
  refine ⟨h.agree.congr ?_ hstorage,?_⟩
  · unfold memoryOf
    rw [map_append,map_append,←Option.toList_map,←Option.toList_map,hactive]
    exact hscheduled.append_right _
  · rw [hnull]
    exact h.noNull

theorem Good.deactivate : Good s.deactivateActiveAlertHelperLocked := by
  refine h.change rfl (List.Perm.refl _) ?_ rfl
  dsimp only [deactivateActiveAlertHelperLocked]
  rw [Option.map_map]
  rfl

/-- A scheduled alert is not the active one. -/
theorem scheduled_facts (hmem : alert∈s.scheduledAlerts) :
    alert∈memoryOf s ∧ ∀ active,s.activeAlert=some active → active.token≠alert.token := by
  refine ⟨mem_append_left _ hmem,?_⟩
  intro active hactive htoken
  have hnodup := h.agree.nodup
  unfold memoryOf at hnodup
  rw [map_append,hactive] at hnodup
  refine (nodup_append.mp hnodup).2.2 alert.token (mem_map_of_mem hmem) active.token ?_ ?_
  · exact mem_singleton_self _
  · exact htoken.symm

end

variable {token : String}

/-- The alert that is found is scheduled under the token. -/
theorem getAlertLocked_facts (h : s.getAlertLocked token=some alert) : alert∈s.scheduledAlerts ∧ alert.token=token := by
  have hfound := List.find?_some h
  exact ⟨mem_of_find?_eq_some h,by simpa using hfound⟩

/-- Erasing from the set takes the alert with the token. -/
theorem eraseFromSet_scheduled (h : Good s) (hmem : alert∈memoryOf s) : eraseFromSet alert s.scheduledAlerts =
      s.scheduledAlerts.filter fun other => decide (other.token≠alert.token) := by
  refine eraseFromSet_eq ?_
  intro other hother htoken
  rw [h.agree.eq_of_token hmem (mem_append_left _ hother) htoken]

/-- An erased alert leaves the storage, and the observers are told. -/
theorem eraseAlert_spec (h : Good s) (hmem : alert∈memoryOf s) :
    ∃ storage,s.eraseAlert alert={s with
        storage := storage
        notified := s.notified++[(alert.token,.deleted)]} ∧
      Agree storage ((memoryOf s).filter fun other => decide (other.token≠alert.token)) := by
  obtain ⟨storage,herase,hagree⟩ := h.agree.erase hmem
  refine ⟨storage,?_,hagree⟩
  unfold eraseAlert
  rw [herase]
  rfl

theorem good_eraseScheduled (h : Good s) (hmem : alert∈s.scheduledAlerts) :
    Good {s.eraseAlert alert with
      scheduledAlerts := eraseFromSet alert (s.eraseAlert alert).scheduledAlerts} := by
  obtain ⟨hmemory,hactive⟩ := scheduled_facts h hmem
  obtain ⟨storage,herase,hagree⟩ := eraseAlert_spec h hmemory
  rw [herase]
  refine ⟨?_,h.noNull⟩
  dsimp only [memoryOf] at hagree ⊢
  rw [eraseFromSet_scheduled h hmemory]
  rw [filter_append] at hagree
  have hkept : s.activeAlert.toList.filter (fun other => decide (other.token≠alert.token)) = s.activeAlert.toList := by
    rw [filter_eq_self]
    intro active hmem'
    exact decide_eq_true (hactive active (Option.mem_toList.mp hmem'))
  rw [hkept] at hagree
  exact hagree

theorem Good.eraseActiveAlert (h : Good s) : Good s.eraseActiveAlert := by
  unfold Scheduler.eraseActiveAlert
  split
  · exact h
  · rename_i alert hactive
    have hmemory : alert∈memoryOf s := by
      unfold memoryOf
      rw [hactive]
      exact mem_concat_self
    obtain ⟨storage,herase,hagree⟩ := eraseAlert_spec h hmemory
    rw [herase]
    refine ⟨hagree.perm (List.Perm.of_eq ?_),h.noNull⟩
    dsimp only [memoryOf]
    rw [hactive,filter_append]
    have hkept : s.scheduledAlerts.filter (fun other => decide (other.token≠alert.token)) = s.scheduledAlerts := by
      rw [filter_eq_self]
      intro other hother
      exact decide_eq_true ((scheduled_facts h hother).2 alert hactive).symm
    rw [hkept]
    simp

theorem alertKey_updateScheduledTime (convert : String → Option ℤ) (alert : Alert) (time : String) :
    alertKey (alert.updateScheduledTime convert time).2=alertKey alert := by
  unfold updateScheduledTime
  split
  · rfl
  · split
    · rfl
    · rfl

theorem alertKey_setAssetConfiguration (alert : Alert) (configuration : AssetConfiguration) :
    alertKey (alert.setAssetConfiguration configuration).2=alertKey alert := by
  unfold setAssetConfiguration
  split
  · rfl
  · rfl

theorem alertKey_snooze (convert : String → Option ℤ) (alert : Alert) (time : String) :
    alertKey (alert.snooze convert time).2=alertKey alert := by
  unfold snooze
  split
  · rfl
  · rfl

variable {convert : String → Option ℤ} {limit : ℤ}

theorem isActiveToken_iff : s.isActiveToken token=true ↔ ∃ alert,s.activeAlert=some alert ∧ alert.token=token := by
  unfold isActiveToken
  cases hactive : s.activeAlert with
  | none => simp
  | some => simp

variable {tokens : List String}

theorem mem_alertsToBeRemoved (h : alert∈s.alertsToBeRemoved tokens) : alert∈memoryOf s ∧ alert.token∈tokens := by
  obtain ⟨token,htoken,hfound⟩ := mem_filterMap.mp h
  split at hfound
  · rename_i hsame
    obtain ⟨active,hactive,rfl⟩ := isActiveToken_iff.mp hsame
    rw [hactive] at hfound
    cases hfound
    refine ⟨?_,htoken⟩
    unfold memoryOf
    rw [hactive]
    exact mem_concat_self
  · obtain ⟨hmem,rfl⟩ := getAlertLocked_facts hfound
    exact ⟨mem_append_left _ hmem,htoken⟩

theorem active_mem_alertsToBeRemoved {active : Alert}
    (hactive : s.activeAlert=some active) (hlisted : active.token∈tokens) : active∈s.alertsToBeRemoved tokens := by
  refine mem_filterMap.mpr ⟨active.token,hlisted,?_⟩
  rw [if_pos (isActiveToken_iff.mpr ⟨active,hactive,rfl⟩)]
  exact hactive

theorem foldl_removeAlert (alerts : List Alert) (s : Scheduler)
    (h : ∀ alert∈alerts,∀ other∈s.scheduledAlerts,other.token=alert.token →
      scheduledTimeUnix other=scheduledTimeUnix alert) :
    ∃ notified,alerts.foldl removeAlert s={s with
      scheduledAlerts := s.scheduledAlerts.filter fun other =>
        decide (other.token∉alerts.map Alert.token)
      notified := notified} := by
  induction alerts generalizing s with
  | nil =>
    refine ⟨s.notified,?_⟩
    simp
  | cons alert alerts ih =>
    have hset := eraseFromSet_eq (h alert mem_cons_self)
    obtain ⟨notified,hfold⟩ := ih (s.removeAlert alert) (by
      intro alert' halert' other hother
      refine h alert' (mem_cons_of_mem _ halert') other ?_
      exact (mem_filter.mp hother).1)
    refine ⟨notified,?_⟩
    rw [foldl_cons,hfold]
    dsimp only [removeAlert,notifyObserver]
    rw [hset,filter_filter]
    congr 1
    refine filter_congr ?_
    intro other _
    by_cases htoken : other.token=alert.token
    · simp [htoken]
    · simp [htoken]

theorem modifyStorage_keys (s : Scheduler) (alert : Alert) :
    (s.modifyStorage alert).storage.alerts.map rowKey=s.storage.alerts.map rowKey := by
  unfold modifyStorage
  cases hmodify : s.storage.modify alert with
  | none => rfl
  | some => exact modify_keys hmodify

/-- A stopped alert is active or not scheduled, and one is active when one was snoozed. -/
def OrderlyChange (s : Scheduler) (token : String) : ObserverState → Prop
  | .stopped => s.isActiveToken token=true ∨ s.getAlertLocked token=none
  | .snoozed => s.activeAlert.isSome=true
  | _ => True

/-- A loaded alert has the key of its row. -/
theorem loadAlert_key {row : AlertRow} (h : storage.loadAlert convert row=some alert) : alertKey alert=rowKey row := by
  unfold loadAlert at h
  split at h
  · cases h
  · split at h
    · cases h
    · unfold setAlertData at h
      split at h
      · split at h
        · cases h
        · cases h
          rfl
      · cases h

/-- The loaded alerts have the keys of the rows. -/
theorem load_keys (h : (storage.load convert).1=true) :
    (storage.load convert).2.map alertKey=storage.alerts.map rowKey := by
  have hrows : ∀ rows,(storage.loadRows convert rows).1=true →
      (storage.loadRows convert rows).2.map alertKey=rows.map rowKey := by
    intro rows
    induction rows with
    | nil =>
      intro _
      rfl
    | cons row rows ih =>
      intro hloads
      unfold loadRows at hloads ⊢
      split at hloads
      · cases hloads
      · rename_i alert hload
        rw [map_cons,map_cons,loadAlert_key hload,ih hloads]
  exact hrows storage.alerts h

/-- Alerts with new tokens are put into the set one after the other. -/
theorem foldl_insertAlert_perm (alerts set : List Alert) (hdistinct : ((alerts++set).map Alert.token).Nodup) :
    (alerts.foldl (fun set alert => insertAlert alert set) set).Perm (alerts++set) := by
  induction alerts generalizing set with
  | nil => exact List.Perm.refl _
  | cons alert alerts ih =>
    rw [cons_append,map_cons] at hdistinct
    obtain ⟨hnew,hrest⟩ := nodup_cons.mp hdistinct
    have hfresh : ∀ other∈set,other.token≠alert.token := by
      intro other hother heq
      refine hnew ?_
      rw [←heq]
      exact mem_map_of_mem (mem_append_right _ hother)
    have hinsert := insertAlert_perm hfresh
    have hmiddle : (alerts++insertAlert alert set).Perm (alert::(alerts++set)) :=
      (hinsert.append_left alerts).trans perm_middle
    rw [foldl_cons]
    refine (ih (insertAlert alert set) ?_).trans hmiddle
    rw [(hmiddle.map Alert.token).nodup_iff]
    exact hdistinct

/-- In a reload the alerts to come agree with the storage as well. -/
structure Reloading (s : Scheduler) (alerts : List Alert) : Prop where
  agree : Agree s.storage (memoryOf s++alerts.filter fun alert => !s.isActiveToken alert.token)
  noNull : s.nullScheduled=false

/-- One loaded alert is scheduled, or leaves as a past one. -/
theorem reloading_reloadAlert (now : ℤ) (h : Reloading s (alert::alerts)) :
    Reloading (s.reloadAlert limit now alert) alerts := by
  unfold reloadAlert
  have hagree := h.agree
  split
  · rename_i hactive
    refine ⟨?_,h.noNull⟩
    rw [filter_cons_of_neg (by simp [hactive])] at hagree
    exact hagree
  · rename_i hactive
    rw [filter_cons_of_pos (by simp [hactive])] at hagree
    set rest := alerts.filter fun alert => !s.isActiveToken alert.token with hrest
    have hmiddle : (memoryOf s++alert::rest).Perm (alert::(memoryOf s++rest)) :=
      perm_middle
    -- the token of the alert is nowhere else
    have hnew : alert.token∉(memoryOf s++rest).map token := by
      have hnodup := (hmiddle.map token).nodup_iff.mp hagree.nodup
      exact (nodup_cons.mp hnodup).1
    have hinsert : ∀ changed,alertKey changed=alertKey alert →
        ((insertAlert changed s.scheduledAlerts++s.activeAlert.toList++rest).map alertKey).Perm
          ((memoryOf s++alert::rest).map alertKey) := by
      intro changed hkey
      have htoken : changed.token=alert.token := congrArg Prod.snd hkey
      have hfresh : ∀ other∈s.scheduledAlerts,other.token≠changed.token := by
        intro other hother heq
        refine hnew ?_
        rw [←htoken,←heq]
        exact mem_map_of_mem (mem_append_left _ (mem_append_left _ hother))
      have hset : (insertAlert changed s.scheduledAlerts++s.activeAlert.toList++rest).Perm
          (changed::(memoryOf s++rest)) :=
        ((insertAlert_perm hfresh).append_right _).append_right _
      refine (hset.map alertKey).trans ?_
      rw [map_cons,hkey,←map_cons]
      exact (hmiddle.map alertKey).symm
    split
    · obtain ⟨storage,herase,hleft⟩ := hagree.erase (mem_append_right _ mem_cons_self)
      unfold eraseAlert
      rw [show (s.notifyObserver alert.token .pastDue).storage.erase alert=some storage from herase]
      refine ⟨hleft.perm ?_,h.noNull⟩
      have hkept : (memoryOf s++rest).filter (fun other => decide (other.token≠alert.token)) = memoryOf s++rest := by
        rw [filter_eq_self]
        intro other hother
        refine decide_eq_true fun heq => hnew ?_
        rw [←heq]
        exact mem_map_of_mem hother
      have hperm := hmiddle.filter fun other => decide (other.token≠alert.token)
      rw [filter_cons_of_neg (by simp),hkept] at hperm
      exact hperm.symm
    · split
      · exact ⟨hagree.congr (hinsert (alert.withState .set) rfl) (modifyStorage_keys s _),h.noNull⟩
      · exact ⟨hagree.congr (hinsert alert rfl) rfl,h.noNull⟩

/-- All the loaded alerts are. -/
theorem reloading_foldl (alerts : List Alert) (now : ℤ) (h : Reloading s alerts) :
    Good (alerts.foldl (fun s alert => s.reloadAlert limit now alert) s) := by
  induction alerts generalizing s with
  | nil =>
    have hagree := h.agree
    rw [filter_nil,append_nil] at hagree
    exact ⟨hagree,h.noNull⟩
  | cons alert alerts ih => exact ih (reloading_reloadAlert now h)

structure Reloadable (s : Scheduler) : Prop where
  ids : ((s.storage.alerts.map rowKey).map Prod.fst).Nodup
  tokens : ((s.storage.alerts.map rowKey).map Prod.snd).Nodup
  active : ∀ alert,s.activeAlert=some alert → alertKey alert∈s.storage.alerts.map rowKey
  noNull : s.nullScheduled=false

theorem active_and_others_perm (h : Reloadable s) {loaded : List Alert}
    (hkeys : loaded.map alertKey=s.storage.alerts.map rowKey) :
    ((s.activeAlert.toList++loaded.filter fun alert => !s.isActiveToken alert.token).map
      alertKey).Perm (loaded.map alertKey) := by
  unfold isActiveToken
  cases hactive : s.activeAlert with
  | none => simp
  | some active =>
    have htokens : (loaded.map token).Nodup := by
      rw [←tokens_eq,hkeys]
      exact h.tokens
    have hothers : loaded.filter (fun alert => !decide (active.token=alert.token)) =
        loaded.filter fun alert => decide (alert.token≠active.token) := by
      refine filter_congr ?_
      intro alert _
      simp [eq_comm]
    have hstored := h.active active hactive
    rw [←hkeys] at hstored
    obtain ⟨copy,hcopy,hsame⟩ := mem_map.mp hstored
    have htoken : copy.token=active.token := congrArg Prod.snd hsame
    have hperm := (cons_filter_perm token htokens hcopy).map alertKey
    rw [map_cons,hsame,htoken] at hperm
    rw [hothers]
    exact hperm

/-- Loading the alerts again brings memory and storage together. -/
theorem good_reload (h : Reloadable s) (loads : (s.storage.load convert).1=true) (now : ℤ)
    {shouldScheduleAlerts : Bool} (hidle : shouldScheduleAlerts=false → s.activeAlert=none) :
    Good (s.reloadAlertsFromDatabase convert limit shouldScheduleAlerts (some now)).2 := by
  have hkeys := load_keys loads
  set loaded := (s.storage.load convert).2 with hloaded
  have htokens : (loaded.map Alert.token).Nodup := by
    rw [←tokens_eq,hkeys]
    exact h.tokens
  unfold reloadAlertsFromDatabase reloadAlerts
  dsimp only
  rw [←hloaded]
  cases shouldScheduleAlerts with
  | true =>
    rw [if_pos rfl]
    refine Good.setTimerIfIdle (reloading_foldl loaded now ?_) _
    refine ⟨⟨?_,h.ids,h.tokens⟩,h.noNull⟩
    dsimp only [memoryOf]
    rw [←hkeys,nil_append]
    exact active_and_others_perm h hkeys
  | false =>
    rw [if_neg Bool.false_ne_true]
    refine ⟨⟨?_,h.ids,h.tokens⟩,h.noNull⟩
    dsimp only [memoryOf]
    rw [hidle rfl,←hkeys,Option.toList_none,append_nil]
    refine List.Perm.map alertKey ?_
    have hset := foldl_insertAlert_perm loaded [] (by simpa using htokens)
    rw [append_nil] at hset
    exact hset

/-- Alerts are cleared, or reloaded without scheduling, only while none is active, and notifications meet
their condition. -/
def Orderly (s : Scheduler) : Event → Prop
  | .clearData => s.activeAlert=none
  | .reloadAlertsFromDatabase shouldScheduleAlerts _ => shouldScheduleAlerts=false → s.activeAlert=none
  | .onAlertStateChange token state _ => OrderlyChange s token state
  | _ => True

section

variable (h : Good s)
include h

theorem good_finishUpdate {changed : Alert} (hmem : alert∈s.scheduledAlerts)
    (hkey : alertKey changed=alertKey alert) (now : Option ℤ) {storage : Storage}
    (hrows : storage.alerts.map rowKey=s.storage.alerts.map rowKey) :
    Good (finishUpdate {s with
      storage := storage
      scheduledAlerts := eraseFromSet alert s.scheduledAlerts} changed now) := by
  refine Good.setTimerIfIdle ?_ now
  have hmemory := (scheduled_facts h hmem).1
  have htoken : changed.token=alert.token := congrArg Prod.snd hkey
  refine h.change hrows ?_ rfl rfl
  rw [eraseFromSet_scheduled h hmemory]
  have hfresh : ∀ other∈s.scheduledAlerts.filter fun other => decide (other.token≠alert.token),
      other.token≠changed.token := by
    intro other hother
    rw [htoken]
    exact of_decide_eq_true (mem_filter.mp hother).2
  have hnodup : (s.scheduledAlerts.map token).Nodup := by
    have hall := h.agree.nodup
    unfold memoryOf at hall
    rw [map_append] at hall
    exact (nodup_append.mp hall).1
  refine ((insertAlert_perm hfresh).map alertKey).trans ?_
  rw [map_cons,hkey,←map_cons]
  exact (cons_filter_perm token hnodup hmem).map alertKey

theorem good_updateAlert (hmem : alert∈s.scheduledAlerts)
    (time : String) (configuration : AssetConfiguration) (now : Option ℤ) :
    Good (s.updateAlert convert alert time configuration now).2 := by
  have htimed := alertKey_updateScheduledTime convert alert time
  have hconfigured : alertKey ((alert.updateScheduledTime convert time).2.setAssetConfiguration configuration).2 =
        alertKey alert :=
    (alertKey_setAssetConfiguration _ configuration).trans htimed
  unfold updateAlert
  dsimp only
  split
  · split
    · split
      · rename_i storage hmodify
        exact good_finishUpdate h hmem hconfigured now (modify_keys hmodify)
      · refine good_finishUpdate h hmem ?_ now rfl
        rw [alertKey_setAssetConfiguration,alertKey_updateScheduledTime]
        exact hconfigured
    · refine good_finishUpdate h hmem ?_ now rfl
      rw [alertKey_updateScheduledTime]
      exact hconfigured
  · exact good_finishUpdate h hmem htimed now rfl

theorem good_scheduleAlert (alert : Alert) (now : Option ℤ) : Good (s.scheduleAlert convert limit alert now).2 := by
  unfold scheduleAlert
  split
  · exact h
  · split
    · exact h
    · split
      · rename_i oldAlert hold
        split
        · exact h
        · exact good_updateAlert h (getAlertLocked_facts hold).1 _ _ _
      · split
        · exact h
        · rename_i storage alert' hstore
          obtain ⟨hnew,htoken⟩ := store_facts hstore
          refine Good.setTimerIfIdle ?_ _
          refine ⟨?_,h.noNull⟩
          refine h.agree.store hstore ?_
          refine (insertAlert_perm ?_).append_right _
          intro other hother heq
          have hexists : s.storage.alertExists alert.token=true := by
            rw [h.agree.alertExists_iff,←htoken,←heq]
            exact mem_map_of_mem (mem_append_left _ hother)
          rw [hnew] at hexists
          cases hexists

theorem good_snoozeAlert (token time : String) : Good (s.snoozeAlert convert token time).2 := by
  unfold snoozeAlert
  split
  · exact h
  · rename_i alert hactive
    split
    · refine h.change rfl (List.Perm.refl _) ?_ rfl
      rw [hactive,Option.map_some,Option.map_some,alertKey_snooze]
    · exact h

theorem good_deleteAlert (token : String) (now : Option ℤ) : Good (s.deleteAlert token now) := by
  unfold deleteAlert
  split
  · exact h.deactivate
  · split
    · exact h
    · rename_i alert hfound
      exact (good_eraseScheduled h (getAlertLocked_facts hfound).1).setTimerForNextAlertLocked now

theorem good_deleteAlerts (tokens : List String) (now : Option ℤ) : Good (s.deleteAlerts tokens now).2 := by
  unfold deleteAlerts
  dsimp only
  split
  · exact h
  · rename_i storage hbulk
    refine Good.setTimerForNextAlertLocked ?_ now
    have hagree := h.agree.bulkErase (fun alert halert => (mem_alertsToBeRemoved halert).1) hbulk
    obtain ⟨notified,hfold⟩ := foldl_removeAlert (s.alertsToBeRemoved tokens)
      {s with
        storage := storage
        activeAlert := if tokens.any s.isActiveToken then none else s.activeAlert} (by
        intro alert halert other hother htoken
        rw [h.agree.eq_of_token (mem_alertsToBeRemoved halert).1 (mem_append_left _ hother) htoken])
    rw [hfold]
    refine ⟨hagree.perm (List.Perm.of_eq ?_),h.noNull⟩
    dsimp only [memoryOf]
    rw [filter_append]
    congr 1
    cases hactive : s.activeAlert with
    | none => simp
    | some active =>
      by_cases hlisted : active.token∈tokens
      · have hany : tokens.any s.isActiveToken=true :=
          any_eq_true.mpr ⟨active.token,hlisted,isActiveToken_iff.mpr ⟨active,hactive,rfl⟩⟩
        rw [if_pos hany]
        have hgone : active.token∈(s.alertsToBeRemoved tokens).map Alert.token :=
          mem_map_of_mem (active_mem_alertsToBeRemoved hactive hlisted)
        simp only [Option.toList_none,Option.toList_some]
        rw [filter_cons_of_neg (by simpa using hgone)]
        rfl
      · have hany : ¬tokens.any s.isActiveToken=true := by
          intro hany
          obtain ⟨token,htoken,hsame⟩ := any_eq_true.mp hany
          obtain ⟨same,heq,rfl⟩ := isActiveToken_iff.mp hsame
          rw [hactive] at heq
          cases heq
          exact hlisted htoken
        rw [if_neg hany]
        have hstays : active.token∉(s.alertsToBeRemoved tokens).map Alert.token := by
          intro hmem
          obtain ⟨alert,halert,htoken⟩ := mem_map.mp hmem
          refine hlisted ?_
          rw [←htoken]
          exact (mem_alertsToBeRemoved halert).2
        simp only [Option.toList_some]
        rw [filter_cons_of_pos (by simpa using hstays)]
        rfl

theorem good_activateNextAlertLocked : Good s.activateNextAlertLocked := by
  unfold activateNextAlertLocked
  split
  · rename_i alert alerts hactive hscheduled
    have hkey : alertKey (activate alert)=alertKey alert := by
      unfold activate
      split
      · rfl
      · rfl
    refine ⟨h.agree.congr ?_ rfl,h.noNull⟩
    unfold memoryOf
    rw [hactive,hscheduled,map_append,map_append]
    simp only [Option.toList_some,Option.toList_none,map_cons,map_nil,append_nil]
    rw [hkey]
    exact perm_append_singleton _ _
  · exact h

theorem good_updateFocus (focusState : FocusState) : Good (s.updateFocus focusState) := by
  have hfocused : Good {s with focusState := focusState} := h.frame rfl rfl rfl rfl
  unfold updateFocus
  split
  · exact h
  · dsimp only
    split
    · exact hfocused.notifyObserver _ _
    · exact hfocused.notifyObserver _ _
    · exact hfocused.deactivate
    · exact good_activateNextAlertLocked hfocused

theorem good_executeOnAlertStateChange {state : ObserverState}
    (horderly : OrderlyChange s token state) (now : Option ℤ) :
    Good (s.executeOnAlertStateChange token state now) := by
  cases state with
  | ready => exact h.notifyObserver _ _
  | started =>
    unfold executeOnAlertStateChange
    dsimp only
    split
    · exact h
    · rename_i alert hactive
      split
      · refine Good.notifyObserver ?_ _ _
        refine h.change (modifyStorage_keys _ _) (List.Perm.refl _) ?_ rfl
        rw [hactive]
        rfl
      · exact h
  | stopped =>
    have htold := h.notifyObserver token .stopped
    unfold executeOnAlertStateChange
    dsimp only
    split
    · exact htold.eraseActiveAlert.setTimerForNextAlertLocked now
    · rename_i hactive
      have hnone : s.getAlertLocked token=none := by
        rcases horderly with hsame|hnone
        · exact absurd hsame hactive
        · exact hnone
      rw [show (s.notifyObserver token .stopped).getAlertLocked token=none from hnone]
      exact htold.setTimerForNextAlertLocked now
  | snoozed =>
    obtain ⟨alert,hactive⟩ := Option.isSome_iff_exists.mp horderly
    unfold executeOnAlertStateChange
    rw [hactive]
    refine Good.setTimerForNextAlertLocked (Good.notifyObserver ?_ _ _) now
    refine ⟨h.agree.congr (List.Perm.map alertKey ?_) (modifyStorage_keys s alert),h.noNull⟩
    unfold memoryOf
    rw [hactive]
    have hfresh : ∀ other∈s.scheduledAlerts,other.token≠alert.token := fun other hother =>
      ((scheduled_facts h hother).2 alert hactive).symm
    simp only [Option.toList_none,Option.toList_some,append_nil]
    exact (insertAlert_perm hfresh).trans (perm_append_singleton _ _).symm
  | completed => exact ((h.notifyObserver token .completed).eraseActiveAlert).setTimerForNextAlertLocked now
  | error =>
    unfold executeOnAlertStateChange
    dsimp only
    split
    · exact (h.eraseActiveAlert.setTimerForNextAlertLocked now).notifyObserver _ _
    · split
      · exact h.notifyObserver _ _
      · rename_i alert hfound
        exact ((good_eraseScheduled h (getAlertLocked_facts hfound).1).setTimerForNextAlertLocked
          now).notifyObserver _ _
  | pastDue => exact h
  | focusEnteredForeground => exact h
  | focusEnteredBackground => exact h
  | deleted => exact h
  | scheduledForLater => exact h

theorem good_changeState (token : String) (state : State) : Good (s.changeState token state) := by
  have hkey : ∀ alert : Alert,
      alertKey (if alert.token=token then alert.withState state else alert)=alertKey alert := by
    intro alert
    split
    · rfl
    · rfl
  refine h.change rfl (List.Perm.of_eq ?_) ?_ rfl
  · dsimp only [changeState]
    rw [map_map]
    exact map_congr_left fun alert _ => hkey alert
  · dsimp only [changeState]
    rw [Option.map_map]
    exact Option.map_congr fun alert _ => hkey alert

/-- After every operation the alerts can be reloaded. -/
theorem Good.reloadable : Reloadable s := by
  refine ⟨h.agree.ids,h.agree.tokens,?_,h.noNull⟩
  intro alert hactive
  rw [←h.agree.same.mem_iff]
  unfold memoryOf
  rw [hactive]
  exact mem_map_of_mem mem_concat_self

/-- Every orderly step keeps memory and storage together. -/
theorem good_step {event : Event} (horderly : Orderly s event) (hstep : Step convert limit s event s') : Good s' := by
  cases hstep with
  | scheduleAlert alert now => exact good_scheduleAlert h alert now
  | snoozeAlert token time => exact good_snoozeAlert h token time
  | deleteAlert token now => exact good_deleteAlert h token now
  | deleteAlerts tokens now => exact good_deleteAlerts h tokens now
  | reloadAlertsFromDatabase shouldScheduleAlerts now loads =>
    cases now with
    | none => exact h.frame rfl rfl rfl rfl
    | some now => exact good_reload h.reloadable loads now horderly
  | updateFocus focusState => exact good_updateFocus h focusState
  | onLocalStop => exact h.deactivate
  | clearData =>
    have hidle : s.activeAlert=none := horderly
    refine ⟨?_,h.noNull⟩
    dsimp only [memoryOf,clearData,deactivateActiveAlertHelperLocked]
    rw [hidle]
    exact ⟨List.Perm.refl _,List.nodup_nil,List.nodup_nil⟩
  | onAlertStateChange token state now => exact good_executeOnAlertStateChange h horderly now
  | changeState token state => exact good_changeState h token state
  | restart shouldScheduleAlerts now loads =>
    have hreloadable : Reloadable (new s.storage) := by
      refine ⟨h.agree.ids,h.agree.tokens,?_,rfl⟩
      intro alert hactive
      cases hactive
    exact good_reload hreloadable loads now fun _ => rfl

end

/-- In every run whose steps meet the condition, the storage has the tokens of the scheduled alerts and of the
active one, each once. -/
theorem storage_agrees (convert : String → Option ℤ) (limit : ℤ) (events : List Event) (s : Scheduler)
    (run : Run (Guarded (Step convert limit) Orderly) (new createDatabase) events s) :
    (∀ token,token∈s.storage.alerts.map AlertRow.token ↔
      token∈s.scheduledAlerts.map Alert.token ∨ s.isActiveToken token=true) ∧
    (s.storage.alerts.map AlertRow.token).Nodup ∧ (s.scheduledAlerts.map Alert.token).Nodup ∧
    (∀ alert∈s.scheduledAlerts,s.isActiveToken alert.token=false) ∧ s.nullScheduled=false := by
  have hgood : Good s := by
    refine run.invariant Good ?_ ?_
    · exact ⟨⟨List.Perm.refl _,nodup_nil,nodup_nil⟩,rfl⟩
    · rintro u event v hu ⟨horderly,hstep⟩
      exact good_step hu horderly hstep
  have hrows : s.storage.alerts.map AlertRow.token=(s.storage.alerts.map rowKey).map Prod.snd := by
    rw [map_map]
    rfl
  have hnodup := hgood.agree.nodup
  unfold memoryOf at hnodup
  rw [map_append] at hnodup
  refine ⟨?_,?_,(nodup_append.mp hnodup).1,?_,hgood.noNull⟩
  · intro token
    rw [hrows,←(hgood.agree.same.map Prod.snd).mem_iff,tokens_eq]
    unfold memoryOf
    rw [map_append,mem_append,isActiveToken_iff]
    refine or_congr Iff.rfl ?_
    cases s.activeAlert with
    | none => simp
    | some => simp [eq_comm]
  · rw [hrows]
    exact hgood.agree.tokens
  · intro alert halert
    rw [←not_eq_true,isActiveToken_iff]
    rintro ⟨active,hactive,htoken⟩
    exact (scheduled_facts hgood halert).2 active hactive htoken

def alarmAt (token : String) (unix : ℤ) : Alert :=
  {new .alarm with
    staticData := ⟨token,0⟩
    dynamicData := {(new .alarm).dynamicData with timePoint := ⟨"",unix⟩}}

/-- One of two alerts is active and snoozed, then the other is stopped. -/
theorem storage_agrees_snoozed : ∃ (events : List Event) (s : Scheduler),
      Run (Guarded (Step (fun _ => none) 1800) Orderly) (new createDatabase) events s ∧
      (∀ token,token∈s.storage.alerts.map AlertRow.token ↔
        token∈s.scheduledAlerts.map Alert.token ∨ s.isActiveToken token=true) ∧
      s.storage.alerts.map AlertRow.token=["a"] ∧ s.scheduledAlerts.map Alert.token=["a"] := by
  have hrun : Run (Guarded (Step (fun _ => none) 1800) Orderly) (new createDatabase)
      [.scheduleAlert (alarmAt "a" 10) (some 0),.scheduleAlert (alarmAt "b" 20) (some 0),
        .updateFocus .foreground,.onAlertStateChange "a" .started (some 10),
        .onAlertStateChange "a" .snoozed (some 11),.updateFocus .none,.updateFocus .background,
        .onAlertStateChange "a" .snoozed (some 12),.deleteAlert "b" (some 12)] _ :=
    ((((((((Run.refl.snoc ⟨trivial,.scheduleAlert (alarmAt "a" 10) (some 0)⟩).snoc
      ⟨trivial,.scheduleAlert (alarmAt "b" 20) (some 0)⟩).snoc
      ⟨trivial,.updateFocus .foreground⟩).snoc
      ⟨trivial,.onAlertStateChange "a" .started (some 10)⟩).snoc
      ⟨by exact rfl,.onAlertStateChange "a" .snoozed (some 11)⟩).snoc
      ⟨trivial,.updateFocus .none⟩).snoc ⟨trivial,.updateFocus .background⟩).snoc
      ⟨by exact rfl,.onAlertStateChange "a" .snoozed (some 12)⟩).snoc
      ⟨trivial,.deleteAlert "b" (some 12)⟩
  exact ⟨_,_,hrun,(storage_agrees _ _ _ _ hrun).1,by decide,by decide⟩

/-- An alert is deleted and set again before its renderer has stopped: the late notification erases it from
the storage. -/
theorem late_stop_erases_rescheduled :
    ¬∀ (convert : String → Option ℤ) (limit : ℤ) (events : List Event) (s : Scheduler),
      Run (Step convert limit) (new createDatabase) events s →
      ∀ token,token∈s.storage.alerts.map AlertRow.token ↔
        token∈s.scheduledAlerts.map Alert.token ∨ s.isActiveToken token=true := by
  intro hall
  have hrun : Run (Step (fun _ => none) 1800) (new createDatabase) _ _ :=
    ((((Run.refl.snoc (.scheduleAlert (alarmAt "a" 10) (some 0))).snoc
      (.updateFocus .foreground)).snoc (.deleteAlerts ["a"] (some 10))).snoc
      (.scheduleAlert (alarmAt "a" 90) (some 10))).snoc (.onAlertStateChange "a" .stopped (some 11))
  have hwrong := (hall _ _ _ _ hrun "a").mpr (.inl (by decide))
  revert hwrong
  decide

end AlexaClientSDK.AlertAgreement
