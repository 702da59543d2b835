import AlexaClientSDK.LabelledRuns
import AlexaClientSDK.AlertStorage

/-!
# Loading the alerts that were stored

A load should return the alerts that are stored, each as it was in memory when it was last stored or modified. The
loader refuses alerts that the parser accepts, and the update statement does not write the assets. For alerts that the
loader accepts and whose assets do not change after they were stored, the load returns what it should.
-/

namespace AlexaClientSDK.AlertRoundTrip

open List LabelledRuns Alerts AlertStorage Storage Alert

/-- A storage, the objects in memory and what should be loaded. -/
structure Client where
  storage : Storage
  alerts : List Alert
  /-- The alerts that are stored, by their positions, as last stored or modified. -/
  kept : List (ℕ × Alert)

/-- A new database and no alerts. -/
def Client.init : Client := ⟨createDatabase,[],[]⟩

inductive Event
  | build (type : AlertType) (payload : Payload)
  | updateScheduledTime (index : ℕ) (time : String)
  | snooze (index : ℕ) (time : String)
  | setAssetConfiguration (index : ℕ) (configuration : AssetConfiguration)
  | changeState (index : ℕ) (state : State)
  | store (index : ℕ)
  | modify (index : ℕ)
  | erase (index : ℕ)

def Client.put (s : Client) (index : ℕ) (alert : Alert) : Client :=
  {s with alerts := s.alerts.set index alert}

section

variable (convert : String → Option ℤ)

/-- The steps. An operation of the storage is a step when it returns true. -/
inductive Step : Client → Event → Client → Prop
  | build {s : Client} {type : AlertType} {payload : Payload} {alert : Alert}
      (parsed : (new type).parseFromJson convert payload=.ok alert) :
      Step s (.build type payload) {s with alerts := s.alerts++[alert]}
  | updateScheduledTime {s : Client} {index : ℕ} {time : String} {alert : Alert} (found : s.alerts[index]?=some alert) :
      Step s (.updateScheduledTime index time) (s.put index (alert.updateScheduledTime convert time).2)
  | snooze {s : Client} {index : ℕ} {time : String} {alert : Alert} (found : s.alerts[index]?=some alert) :
      Step s (.snooze index time) (s.put index (alert.snooze convert time).2)
  | setAssetConfiguration {s : Client} {index : ℕ} {configuration : AssetConfiguration} {alert : Alert}
      (found : s.alerts[index]?=some alert) :
      Step s (.setAssetConfiguration index configuration) (s.put index (alert.setAssetConfiguration configuration).2)
  | changeState {s : Client} {index : ℕ} {state : State} {alert : Alert} (found : s.alerts[index]?=some alert) :
      Step s (.changeState index state) (s.put index (alert.withState state))
  | store {s : Client} {index : ℕ} {alert alert' : Alert} {storage : Storage}
      (found : s.alerts[index]?=some alert) (stored : s.storage.store alert=some (storage,alert')) :
      Step s (.store index) ⟨storage,s.alerts.set index alert',s.kept++[(index,alert')]⟩
  | modify {s : Client} {index : ℕ} {alert : Alert} {storage : Storage}
      (found : s.alerts[index]?=some alert) (modified : s.storage.modify alert=some storage) :
      Step s (.modify index) {s with
        storage := storage
        kept := s.kept.map fun entry => if entry.1=index then (index,alert) else entry}
  | erase {s : Client} {index : ℕ} {alert : Alert} {storage : Storage}
      (found : s.alerts[index]?=some alert) (erased : s.storage.erase alert=some storage) :
      Step s (.erase index) {s with
        storage := storage
        kept := s.kept.filter fun entry => decide (entry.1≠index)}

/-- The loader accepts the alert, and its tables hold all of it. -/
structure Loadable (alert : Alert) : Prop where
  valid : validateAssetConfiguration alert.dynamicData.assetConfiguration=true
  count : 0≤alert.dynamicData.loopCount
  pause : -2^31≤alert.dynamicData.assetConfiguration.loopPause ∧
    alert.dynamicData.assetConfiguration.loopPause<2^31
  keyed : ∀ entry∈alert.dynamicData.assetConfiguration.assets.entries,entry.2.id=entry.1

instance (alert : Alert) : Decidable (Loadable alert) :=
  decidable_of_iff (validateAssetConfiguration alert.dynamicData.assetConfiguration=true ∧
      0≤alert.dynamicData.loopCount ∧
      (-2^31≤alert.dynamicData.assetConfiguration.loopPause ∧ alert.dynamicData.assetConfiguration.loopPause<2^31) ∧
      ∀ entry∈alert.dynamicData.assetConfiguration.assets.entries,entry.2.id=entry.1)
    ⟨fun h => ⟨h.1,h.2.1,h.2.2.1,h.2.2.2⟩,fun h => ⟨h.valid,h.count,h.pause,h.keyed⟩⟩

/-- A stored alert can be loaded, and is modified or erased with its assets. -/
def Sturdy (s : Client) : Event → Prop
  | .store index => ∀ alert∈s.alerts[index]?,Loadable alert
  | .modify index => ∀ alert∈s.alerts[index]?,∃ entry∈s.kept,entry.1=index ∧
      entry.2.dynamicData.assetConfiguration=alert.dynamicData.assetConfiguration
  | .erase index => ∃ entry∈s.kept,entry.1=index
  | _ => True

instance (s : Client) (event : Event) : Decidable (Sturdy s event) :=
  match event with
  | .build _ _ => inferInstanceAs (Decidable True)
  | .updateScheduledTime _ _ => inferInstanceAs (Decidable True)
  | .snooze _ _ => inferInstanceAs (Decidable True)
  | .setAssetConfiguration _ _ => inferInstanceAs (Decidable True)
  | .changeState _ _ => inferInstanceAs (Decidable True)
  | .store index => inferInstanceAs (Decidable (∀ alert∈s.alerts[index]?,Loadable alert))
  | .modify index => inferInstanceAs (Decidable (∀ alert∈s.alerts[index]?,∃ entry∈s.kept,
      entry.1=index ∧ entry.2.dynamicData.assetConfiguration=alert.dynamicData.assetConfiguration))
  | .erase index => inferInstanceAs (Decidable (∃ entry∈s.kept,entry.1=index))

/-- It has everything that was in memory, assets being the same by their ids. -/
structure Agrees (loaded kept : Alert) : Prop where
  staticData : loaded.staticData=kept.staticData
  type : loaded.type=kept.type
  state : loaded.state=kept.state
  timePoint : loaded.dynamicData.timePoint=kept.dynamicData.timePoint
  loopCount : loaded.dynamicData.loopCount=kept.dynamicData.loopCount
  loopPause : loaded.dynamicData.assetConfiguration.loopPause =
    kept.dynamicData.assetConfiguration.loopPause
  background : loaded.dynamicData.assetConfiguration.backgroundAssetId =
    kept.dynamicData.assetConfiguration.backgroundAssetId
  assets : ∀ id,loaded.dynamicData.assetConfiguration.assets.lookup id =
    kept.dynamicData.assetConfiguration.assets.lookup id
  playOrder : loaded.dynamicData.assetConfiguration.assetPlayOrderItems =
    kept.dynamicData.assetConfiguration.assetPlayOrderItems

def OnTime (alert : Alert) : Prop :=
  convert alert.dynamicData.timePoint.timeISO8601=some alert.dynamicData.timePoint.timeUnix

structure Inv (s : Client) : Prop where
  rows : s.storage.alerts=s.kept.map fun entry => alertRow entry.2
  assets : ∀ entry∈s.kept,s.storage.loadAlertAssets entry.2.id =
    entry.2.dynamicData.assetConfiguration.assets.entries.map Sigma.snd
  items : ∀ entry∈s.kept,(s.storage.loadAlertAssetPlayOrderItems entry.2.id).map Prod.snd =
    entry.2.dynamicData.assetConfiguration.assetPlayOrderItems
  ownAssets : ∀ row∈s.storage.alertAssets,row.alertId∈s.kept.map fun entry => entry.2.id
  ownItems : ∀ row∈s.storage.alertAssetPlayOrderItems,
    row.alertId∈s.kept.map fun entry => entry.2.id
  distinct : (s.kept.map fun entry => entry.2.id).Nodup
  /-- In memory the alerts have kept what cannot be changed. -/
  linked : ∀ entry∈s.kept,∃ alert,s.alerts[entry.1]?=some alert ∧
    alert.staticData=entry.2.staticData ∧ alert.type=entry.2.type ∧
    alert.dynamicData.loopCount=entry.2.dynamicData.loopCount
  loadable : ∀ entry∈s.kept,Loadable entry.2
  onTime : ∀ entry∈s.kept,OnTime convert entry.2
  current : ∀ alert∈s.alerts,OnTime convert alert

end

theorem insertOrderItem_last {item : ℕ × String} {items : List (ℕ × String)}
    (h : ∀ other∈items,other.1 < item.1) : insertOrderItem item items=items++[item] := by
  induction items with
  | nil => rfl
  | cons other items ih =>
    have hother := h other mem_cons_self
    rw [insertOrderItem,if_neg (Nat.lt_asymm hother),if_pos hother,
      ih fun another hanother => h another (mem_cons_of_mem _ hanother)]
    rfl

theorem foldl_playOrderRows (alertId id position : ℕ) (items : List String)
    (before : List (ℕ × String)) (h : ∀ other∈before,other.1<position) :
    (((playOrderRows alertId id position items).map
      fun row => (row.assetPlayOrderPosition,row.assetPlayOrderToken)).foldl
        (fun items item => insertOrderItem item items) before).map Prod.snd = before.map Prod.snd++items := by
  induction items generalizing id position before with
  | nil => simp [playOrderRows]
  | cons item items ih =>
    rw [playOrderRows,map_cons,foldl_cons,insertOrderItem_last h]
    rw [ih (id+1) (position+1)]
    · simp
    · intro other hother
      rcases mem_append.mp hother with hother|hother
      · exact Nat.lt_succ_of_lt (h other hother)
      · rw [mem_singleton.mp hother]
        exact Nat.lt_succ_self position

theorem map_assetRows (alertId id : ℕ) (assets : List Asset) :
    ((assetRows alertId id assets).map fun row => (⟨row.avsId,row.url⟩ : Asset))=assets := by
  induction assets generalizing id with
  | nil => rfl
  | cons asset assets ih =>
    rw [assetRows,map_cons,ih]

variable {id alertId newId : ℕ}

theorem alertId_of_mem_assetRows {assets : List Asset} {row : AssetRow}
    (h : row∈assetRows alertId id assets) : row.alertId=alertId := by
  induction assets generalizing id with
  | nil => cases h
  | cons asset assets ih =>
    rcases mem_cons.mp h with rfl|h
    · rfl
    · exact ih h

theorem alertId_of_mem_playOrderRows {alertId position : ℕ} {items : List String}
    {row : PlayOrderRow} (h : row∈playOrderRows alertId id position items) : row.alertId=alertId := by
  induction items generalizing id position with
  | nil => cases h
  | cons item items ih =>
    rcases mem_cons.mp h with rfl|h
    · rfl
    · exact ih h

theorem lookup_foldl_insert (entries : List (Sigma fun _ : String => Asset))
    (hkeys : entries.NodupKeys) (hkeyed : ∀ entry∈entries,entry.2.id=entry.1) (before : Assets) (id : String) :
    ((entries.map Sigma.snd).foldl (fun parsed asset => parsed.insert asset.id asset) before).lookup id =
      (entries.dlookup id).or (before.lookup id) := by
  induction entries generalizing before with
  | nil => simp
  | cons entry entries ih =>
    obtain ⟨hnew,hkeys⟩ := nodupKeys_cons.mp hkeys
    have hid : entry.2.id=entry.1 := hkeyed entry mem_cons_self
    rw [map_cons,foldl_cons,ih hkeys (fun other hother => hkeyed other (mem_cons_of_mem _ hother)),hid]
    by_cases heq : id=entry.1
    · subst heq
      have hnone : entries.dlookup entry.1=none := dlookup_eq_none.mpr hnew
      rw [hnone,AList.lookup_insert,dlookup_cons_eq]
      rfl
    · rw [AList.lookup_insert_ne heq,dlookup_cons_ne _ _ heq]

/-- The assets of an alert are found under their ids again. -/
theorem lookup_assetsOfList {assets : Assets} (hkeyed : ∀ entry∈assets.entries,entry.2.id=entry.1)
    (id : String) : (assetsOfList (assets.entries.map Sigma.snd)).lookup id=assets.lookup id := by
  unfold assetsOfList
  rw [lookup_foldl_insert assets.entries assets.nodupKeys hkeyed]
  rw [AList.lookup_empty,Option.or_none]
  rfl

theorem hasAsset_congr {assets assets' : Assets} (h : ∀ id,assets.lookup id=assets'.lookup id)
    (key : String) : hasAsset key assets=hasAsset key assets' := by
  unfold hasAsset
  rw [h key]

theorem toInt_of_fits {pause : ℤ} (h : -2^31≤pause ∧ pause<2^31) : toInt pause=pause := by
  unfold toInt
  rw [Int.bmod_eq_of_le]
  · omega
  · omega

variable {convert : String → Option ℤ} {s s' : Client} {entry : ℕ × Alert}

theorem loadAlert_of_kept (h : Inv convert s) (hmem : entry∈s.kept) :
    ∃ loaded,s.storage.loadAlert convert (alertRow entry.2)=some loaded ∧ Agrees loaded entry.2 := by
  have hload := h.loadable entry hmem
  have htime : setTimeISO8601 convert entry.2.dynamicData.timePoint.timeISO8601 =
      some entry.2.dynamicData.timePoint := by
    have honTime : convert _=some _ := h.onTime entry hmem
    rw [setTimeISO8601,honTime]
    rfl
  have hassets := lookup_assetsOfList hload.keyed
  set configuration : AssetConfiguration := {
    assets := assetsOfList (s.storage.loadAlertAssets entry.2.id)
    assetPlayOrderItems := (s.storage.loadAlertAssetPlayOrderItems entry.2.id).map Prod.snd
    backgroundAssetId := entry.2.dynamicData.assetConfiguration.backgroundAssetId
    loopPause := toInt entry.2.dynamicData.assetConfiguration.loopPause} with hconfiguration
  have hlookup : ∀ id,configuration.assets.lookup id = entry.2.dynamicData.assetConfiguration.assets.lookup id := by
    intro id
    rw [hconfiguration]
    rw [h.assets entry hmem]
    exact hassets id
  have hitems : configuration.assetPlayOrderItems =
      entry.2.dynamicData.assetConfiguration.assetPlayOrderItems := h.items entry hmem
  have hvalid : validateAssetConfiguration configuration=true := by
    rw [←hload.valid]
    unfold validateAssetConfiguration
    rw [hitems,hasAsset_congr hlookup]
    simp only [hasAsset_congr hlookup]
    rfl
  refine ⟨⟨entry.2.type,entry.2.staticData,{
    state := entry.2.state
    timePoint := entry.2.dynamicData.timePoint
    loopCount := entry.2.dynamicData.loopCount
    hasRenderingFailed := false
    assetConfiguration := configuration}⟩,?_,?_⟩
  · unfold loadAlert alertRow
    simp only [dbFieldToAlertType_field,dbFieldToAlertState_field]
    unfold setAlertData
    rw [←hconfiguration,htime]
    rw [if_pos hvalid,if_neg (Int.not_lt.mpr hload.count)]
    rfl
  · exact ⟨rfl,rfl,rfl,rfl,rfl,toInt_of_fits hload.pause,rfl,hlookup,hitems⟩

theorem load_of_inv (h : Inv convert s) : ∃ loaded,s.storage.load convert=(true,loaded) ∧
    List.Forall₂ (fun alert entry => Agrees alert entry.2) loaded s.kept := by
  have hrows : ∀ entries : List (ℕ × Alert),(∀ entry∈entries,entry∈s.kept) →
      ∃ loaded,s.storage.loadRows convert (entries.map fun entry => alertRow entry.2)=(true,loaded) ∧
        List.Forall₂ (fun alert entry => Agrees alert entry.2) loaded entries := by
    intro entries hentries
    induction entries with
    | nil => exact ⟨[],rfl,.nil⟩
    | cons entry entries ih =>
      obtain ⟨alert,halert,hagrees⟩ := loadAlert_of_kept h (hentries entry mem_cons_self)
      obtain ⟨rest,hrest,hall⟩ := ih fun other hother => hentries other (mem_cons_of_mem _ hother)
      refine ⟨alert::rest,?_,.cons hagrees hall⟩
      rw [map_cons,loadRows,halert]
      rw [hrest]
  unfold load
  rw [h.rows]
  exact hrows s.kept fun entry hentry => hentry

theorem inv_init : Inv convert Client.init := by
  constructor
  · rfl
  · intro entry hentry
    cases hentry
  · intro entry hentry
    cases hentry
  · intro row hrow
    cases hrow
  · intro row hrow
    cases hrow
  · exact List.nodup_nil
  · intro entry hentry
    cases hentry
  · intro entry hentry
    cases hentry
  · intro entry hentry
    cases hentry
  · intro alert halert
    cases halert

variable {alert : Alert}

theorem inv_build (h : Inv convert s) (honTime : OnTime convert alert) :
    Inv convert {s with alerts := s.alerts++[alert]} := by
  refine ⟨h.rows,h.assets,h.items,h.ownAssets,h.ownItems,h.distinct,?_,h.loadable,h.onTime,?_⟩
  · intro entry hentry
    obtain ⟨old,hold,hsame⟩ := h.linked entry hentry
    refine ⟨old,?_,hsame⟩
    rw [List.getElem?_append_left (List.getElem?_eq_some_iff.mp hold).1]
    exact hold
  · intro other hother
    rcases mem_append.mp hother with hother|hother
    · exact h.current other hother
    · rw [mem_singleton.mp hother]
      exact honTime

variable {index : ℕ} {alert' : Alert}

/-- The token, the id, the type and the loop count stay. -/
theorem inv_put (h : Inv convert s) (found : s.alerts[index]?=some alert) (hstatic : alert'.staticData=alert.staticData)
    (htype : alert'.type=alert.type) (hcount : alert'.dynamicData.loopCount=alert.dynamicData.loopCount)
    (honTime : OnTime convert alert') : Inv convert (s.put index alert') := by
  refine ⟨h.rows,h.assets,h.items,h.ownAssets,h.ownItems,h.distinct,?_,h.loadable,h.onTime,?_⟩
  · intro entry hentry
    obtain ⟨old,hold,hstatic',htype',hcount'⟩ := h.linked entry hentry
    dsimp only [Client.put]
    by_cases heq : index=entry.1
    · subst heq
      rw [found] at hold
      cases hold
      refine ⟨alert',?_,hstatic.trans hstatic',htype.trans htype',hcount.trans hcount'⟩
      exact List.getElem?_set_self (List.getElem?_eq_some_iff.mp found).1
    · refine ⟨old,?_,hstatic',htype',hcount'⟩
      rw [List.getElem?_set_ne heq]
      exact hold
  · intro other hother
    rcases mem_or_eq_of_mem_set hother with hother|rfl
    · exact h.current other hother
    · exact honTime

theorem onTime_of_setTime {time : String} {timePoint : TimePoint} (h : setTimeISO8601 convert time=some timePoint) :
    convert timePoint.timeISO8601=some timePoint.timeUnix := by
  obtain ⟨unix,hunix,rfl⟩ := Option.map_eq_some_iff.mp h
  exact hunix

theorem timePoint_parse (payload : Payload) (data : DynamicData) :
    (parseAlertAssetConfigurationFromJson payload data).timePoint=data.timePoint := by
  unfold parseAlertAssetConfigurationFromJson
  split
  · rfl
  · rfl

theorem onTime_parseFromJson {payload : Payload}
    (h : alert.parseFromJson convert payload=.ok alert') : OnTime convert alert' := by
  unfold parseFromJson at h
  split at h
  · cases h
  · split at h
    · cases h
    · split at h
      · cases h
      · rename_i timePoint htime
        cases h
        unfold OnTime
        rw [timePoint_parse]
        exact onTime_of_setTime htime

section

variable (h : Inv convert s)
include h

theorem inv_updateScheduledTime (time : String) (found : s.alerts[index]?=some alert) :
    Inv convert (s.put index (alert.updateScheduledTime convert time).2) := by
  have hcurrent := h.current alert (mem_of_getElem? found)
  unfold updateScheduledTime
  split
  · exact inv_put h found rfl rfl rfl hcurrent
  · split
    · exact inv_put h found rfl rfl rfl hcurrent
    · rename_i timePoint htime
      exact inv_put h found rfl rfl rfl (onTime_of_setTime htime)

theorem inv_snooze (time : String) (found : s.alerts[index]?=some alert) :
    Inv convert (s.put index (alert.snooze convert time).2) := by
  have hcurrent := h.current alert (mem_of_getElem? found)
  unfold snooze
  split
  · exact inv_put h found rfl rfl rfl hcurrent
  · rename_i timePoint htime
    exact inv_put h found rfl rfl rfl (onTime_of_setTime htime)

/-- It changes nothing that is kept. -/
theorem inv_setAssetConfiguration (configuration : AssetConfiguration) (found : s.alerts[index]?=some alert) :
    Inv convert (s.put index (alert.setAssetConfiguration configuration).2) := by
  have hcurrent := h.current alert (mem_of_getElem? found)
  unfold setAssetConfiguration
  split
  · exact inv_put h found rfl rfl rfl hcurrent
  · exact inv_put h found rfl rfl rfl hcurrent

theorem ids_of_inv : s.storage.alerts.map AlertRow.id=s.kept.map fun entry => entry.2.id := by
  rw [h.rows,map_map]
  rfl

theorem alertExists_of_kept (hmem : entry∈s.kept) : s.storage.alertExists entry.2.token=true := by
  unfold alertExists
  rw [h.rows]
  exact any_eq_true.mpr ⟨alertRow entry.2,mem_map.mpr ⟨entry,hmem,rfl⟩,decide_eq_true rfl⟩

end

variable {α : Type*}

theorem filter_alertId_append (alertId : α → ℕ) (rows more : List α)
    (hmore : ∀ row∈more,alertId row=newId) (hne : id≠newId) :
    (rows++more).filter (fun row => decide (alertId row=id)) = rows.filter fun row => decide (alertId row=id) := by
  rw [filter_append]
  have hnone : more.filter (fun row => decide (alertId row=id))=[] := by
    rw [filter_eq_nil_iff]
    intro row hrow
    rw [hmore row hrow]
    simpa using hne.symm
  rw [hnone,append_nil]

theorem filter_alertId_new (alertId : α → ℕ) (rows more : List α)
    (hrows : ∀ row∈rows,alertId row≠newId) (hmore : ∀ row∈more,alertId row=newId) :
    (rows++more).filter (fun row => decide (alertId row=newId))=more := by
  rw [filter_append]
  have hnone : rows.filter (fun row => decide (alertId row=newId))=[] := by
    rw [filter_eq_nil_iff]
    intro row hrow
    simpa using hrows row hrow
  have hall : more.filter (fun row => decide (alertId row=newId))=more := by
    rw [filter_eq_self]
    intro row hrow
    exact decide_eq_true (hmore row hrow)
  rw [hnone,hall,nil_append]

variable {storage : Storage}

theorem inv_store (h : Inv convert s) (hload : Loadable alert) (found : s.alerts[index]?=some alert)
    (stored : s.storage.store alert=some (storage,alert')) :
    Inv convert ⟨storage,s.alerts.set index alert',s.kept++[(index,alert')]⟩ := by
  have hcurrent := h.current alert (mem_of_getElem? found)
  unfold store at stored
  split at stored
  · cases stored
  · rename_i hnew
    set newId := AlertStorage.getTableMaxIntValue (s.storage.alerts.map AlertRow.id)+1 with hnewId
    have hfresh : ∀ id∈s.kept.map fun entry => entry.2.id,id≠newId := by
      intro id hid heq
      rw [←ids_of_inv h] at hid
      have hle := le_getTableMaxIntValue hid
      omega
    have hother : ∀ entry∈s.kept,entry.1≠index := by
      intro entry hentry heq
      obtain ⟨old,hold,hstatic,_⟩ := h.linked entry hentry
      rw [heq,found] at hold
      cases hold
      refine hnew ?_
      have htoken : alert.token=entry.2.token := by
        rw [token,token,hstatic]
      rw [htoken]
      exact alertExists_of_kept h hentry
    cases stored
    have hrow : ∀ row∈s.storage.alertAssets,row.alertId≠newId := fun row hrow =>
      hfresh _ (h.ownAssets row hrow)
    have hitem : ∀ row∈s.storage.alertAssetPlayOrderItems,row.alertId≠newId := fun row hrow =>
      hfresh _ (h.ownItems row hrow)
    refine ⟨?_,?_,?_,?_,?_,?_,?_,?_,?_,?_⟩
    · dsimp only
      rw [h.rows,map_append]
      rfl
    · intro entry hentry
      unfold loadAlertAssets
      rcases mem_append.mp hentry with hentry|hentry
      · rw [filter_alertId_append AssetRow.alertId _ _ (fun row hrow => alertId_of_mem_assetRows hrow)
          (hfresh _ (mem_map_of_mem hentry))]
        exact h.assets entry hentry
      · rw [mem_singleton.mp hentry]
        change List.map _ (List.filter (fun row : AssetRow => decide (row.alertId=newId)) _)=_
        rw [filter_alertId_new AssetRow.alertId _ _ hrow fun row hrow => alertId_of_mem_assetRows hrow]
        exact map_assetRows _ _ _
    · intro entry hentry
      unfold loadAlertAssetPlayOrderItems
      rcases mem_append.mp hentry with hentry|hentry
      · rw [filter_alertId_append PlayOrderRow.alertId _ _
          (fun row hrow => alertId_of_mem_playOrderRows hrow) (hfresh _ (mem_map_of_mem hentry))]
        exact h.items entry hentry
      · rw [mem_singleton.mp hentry]
        change List.map Prod.snd (List.foldl _ [] (List.map _
          (List.filter (fun row : PlayOrderRow => decide (row.alertId=newId)) _)))=_
        rw [filter_alertId_new PlayOrderRow.alertId _ _ hitem fun row hrow => alertId_of_mem_playOrderRows hrow]
        rw [foldl_playOrderRows _ _ _ _ [] (by simp)]
        rfl
    · intro row hmem
      rw [map_append]
      rcases mem_append.mp hmem with hmem|hmem
      · exact mem_append_left _ (h.ownAssets row hmem)
      · rw [alertId_of_mem_assetRows hmem]
        exact mem_concat_self
    · intro row hmem
      rw [map_append]
      rcases mem_append.mp hmem with hmem|hmem
      · exact mem_append_left _ (h.ownItems row hmem)
      · rw [alertId_of_mem_playOrderRows hmem]
        exact mem_concat_self
    · rw [map_append]
      refine h.distinct.append (nodup_singleton _) ?_
      intro id hid hid'
      exact hfresh id hid (mem_singleton.mp hid')
    · intro entry hentry
      rcases mem_append.mp hentry with hentry|hentry
      · obtain ⟨old,hold,hsame⟩ := h.linked entry hentry
        refine ⟨old,?_,hsame⟩
        rw [List.getElem?_set_ne (hother entry hentry).symm]
        exact hold
      · rw [mem_singleton.mp hentry]
        exact ⟨_,List.getElem?_set_self (List.getElem?_eq_some_iff.mp found).1,rfl,rfl,rfl⟩
    · intro entry hentry
      rcases mem_append.mp hentry with hentry|hentry
      · exact h.loadable entry hentry
      · rw [mem_singleton.mp hentry]
        exact ⟨hload.valid,hload.count,hload.pause,hload.keyed⟩
    · intro entry hentry
      rcases mem_append.mp hentry with hentry|hentry
      · exact h.onTime entry hentry
      · rw [mem_singleton.mp hentry]
        exact hcurrent
    · intro other hmem
      rcases mem_or_eq_of_mem_set hmem with hmem|rfl
      · exact h.current other hmem
      · exact hcurrent

variable {kept : Alert}

theorem filter_erased (alertId : α → ℕ) (rows : List α) {erased : ℕ} (hne : id≠erased) :
    (rows.filter fun row => decide (alertId row≠erased)).filter (fun row => decide (alertId row=id)) =
      rows.filter fun row => decide (alertId row=id) := by
  rw [filter_filter]
  refine filter_congr ?_
  intro row _
  by_cases heq : alertId row=id
  · simp [heq,hne]
  · simp [heq]

section

variable (h : Inv convert s)
include h

theorem position_iff_id (found : s.alerts[index]?=some alert) (hkept : (index,kept)∈s.kept)
    (hmem : entry∈s.kept) : entry.1=index ↔ entry.2.id=alert.id := by
  have hid : ∀ other∈s.kept,other.1=index → other.2.id=alert.id := by
    intro other hother heq
    obtain ⟨old,hold,hstatic,_⟩ := h.linked other hother
    rw [heq,found] at hold
    cases hold
    rw [Alert.id,Alert.id,hstatic]
  refine ⟨hid entry hmem,?_⟩
  intro heq
  have hsame : entry=(index,kept) := by
    refine inj_on_of_nodup_map h.distinct hmem hkept ?_
    rw [heq]
    exact (hid _ hkept rfl).symm
  rw [hsame]

/-- `modify` keeps the invariant when the assets are those that were stored. -/
theorem inv_modify (found : s.alerts[index]?=some alert) (hkept : (index,kept)∈s.kept)
    (hassets : kept.dynamicData.assetConfiguration=alert.dynamicData.assetConfiguration)
    (modified : s.storage.modify alert=some storage) :
    Inv convert {s with
      storage := storage
      kept := s.kept.map fun entry => if entry.1=index then (index,alert) else entry} := by
  obtain ⟨same,hsame,hstatic,htype,hcount⟩ := h.linked _ hkept
  rw [found] at hsame
  cases hsame
  -- an entry at the position is the one that was kept there
  have honly : ∀ entry∈s.kept,entry.1=index → entry.2=kept := by
    intro entry hentry heq
    have hentry' : entry=(index,kept) := by
      refine inj_on_of_nodup_map h.distinct hentry hkept ?_
      rw [(position_iff_id h found hkept hentry).mp heq]
      exact ((position_iff_id h found hkept hkept).mp rfl).symm
    rw [hentry']
  have hids : (s.kept.map fun entry => if entry.1=index then (index,alert) else entry).map
      (fun entry => entry.2.id)=s.kept.map fun entry => entry.2.id := by
    rw [map_map]
    refine map_congr_left ?_
    intro entry hentry
    dsimp only [Function.comp]
    split
    · rename_i heq
      exact ((position_iff_id h found hkept hentry).mp heq).symm
    · rfl
  -- what holds of every kept alert and of the modified one holds after the change
  have hmap : ∀ P : ℕ × Alert → Prop,(∀ entry∈s.kept,P entry) → P (index,alert) →
      ∀ entry∈s.kept.map (fun entry => if entry.1=index then (index,alert) else entry),P entry := by
    intro P hall hnew entry hentry
    obtain ⟨old,hold,rfl⟩ := mem_map.mp hentry
    split
    · exact hnew
    · exact hall old hold
  unfold Storage.modify at modified
  split at modified
  · cases modified
    refine ⟨?_,?_,?_,?_,?_,?_,?_,?_,?_,h.current⟩
    · rw [h.rows,map_map,map_map]
      refine map_congr_left ?_
      intro entry hentry
      dsimp only [Function.comp]
      by_cases heq : entry.1=index
      · have hrow : (alertRow entry.2).id=alert.id := (position_iff_id h found hkept hentry).mp heq
        rw [if_pos hrow,if_pos heq,honly entry hentry heq]
        unfold alertRow Alert.id Alert.token
        rw [hstatic,htype,hcount,hassets]
      · have hrow : ¬(alertRow entry.2).id=alert.id := fun hid =>
          heq ((position_iff_id h found hkept hentry).mpr hid)
        rw [if_neg hrow,if_neg heq]
    · refine hmap _ h.assets ?_
      have hold := h.assets _ hkept
      rw [hassets] at hold
      rw [←hold]
      unfold Alert.id
      rw [hstatic]
      rfl
    · refine hmap _ h.items ?_
      have hold := h.items _ hkept
      rw [hassets] at hold
      rw [←hold]
      unfold Alert.id
      rw [hstatic]
      rfl
    · rw [hids]
      exact h.ownAssets
    · rw [hids]
      exact h.ownItems
    · rw [hids]
      exact h.distinct
    · exact hmap _ h.linked ⟨alert,found,rfl,rfl,rfl⟩
    · refine hmap _ h.loadable ?_
      have hload := h.loadable _ hkept
      refine ⟨?_,?_,?_,?_⟩
      · rw [←hassets]
        exact hload.valid
      · rw [hcount]
        exact hload.count
      · rw [←hassets]
        exact hload.pause
      · rw [←hassets]
        exact hload.keyed
    · exact hmap _ h.onTime (h.current alert (mem_of_getElem? found))
  · cases modified

theorem inv_erase (found : s.alerts[index]?=some alert) (hkept : (index,kept)∈s.kept)
    (erased : s.storage.erase alert=some storage) :
    Inv convert {s with
      storage := storage
      kept := s.kept.filter fun entry => decide (entry.1≠index)} := by
  have hleft : ∀ entry∈s.kept.filter (fun entry => decide (entry.1≠index)), entry∈s.kept ∧ entry.2.id≠alert.id := by
    intro entry hentry
    obtain ⟨hentry,hne⟩ := mem_filter.mp hentry
    refine ⟨hentry,fun hid => ?_⟩
    exact of_decide_eq_true hne ((position_iff_id h found hkept hentry).mpr hid)
  have hkeeps : ∀ id,id∈(s.kept.map fun entry => entry.2.id) → id≠alert.id →
      id∈(s.kept.filter fun entry => decide (entry.1≠index)).map fun entry => entry.2.id := by
    intro id hid hne
    obtain ⟨entry,hentry,rfl⟩ := mem_map.mp hid
    refine mem_map.mpr ⟨entry,mem_filter.mpr ⟨hentry,decide_eq_true ?_⟩,rfl⟩
    intro heq
    exact hne ((position_iff_id h found hkept hentry).mp heq)
  unfold erase at erased
  split at erased
  · cases erased
    refine ⟨?_,?_,?_,?_,?_,?_,?_,?_,?_,h.current⟩
    · dsimp only [eraseAlertByAlertId]
      rw [h.rows,filter_map]
      congr 1
      refine filter_congr ?_
      intro entry hentry
      have hiff : (alertRow entry.2).id=alert.id ↔ entry.1=index :=
        (position_iff_id h found hkept hentry).symm
      dsimp only [Function.comp]
      rw [decide_eq_decide]
      exact not_congr hiff
    · intro entry hentry
      obtain ⟨hentry,hne⟩ := hleft entry hentry
      unfold loadAlertAssets eraseAlertByAlertId
      rw [filter_erased AssetRow.alertId _ hne]
      exact h.assets entry hentry
    · intro entry hentry
      obtain ⟨hentry,hne⟩ := hleft entry hentry
      unfold loadAlertAssetPlayOrderItems eraseAlertByAlertId
      rw [filter_erased PlayOrderRow.alertId _ hne]
      exact h.items entry hentry
    · intro row hrow
      obtain ⟨hrow,hne⟩ := mem_filter.mp hrow
      exact hkeeps _ (h.ownAssets row hrow) (of_decide_eq_true hne)
    · intro row hrow
      obtain ⟨hrow,hne⟩ := mem_filter.mp hrow
      exact hkeeps _ (h.ownItems row hrow) (of_decide_eq_true hne)
    · exact h.distinct.sublist (filter_sublist.map _)
    · intro entry hentry
      exact h.linked entry (hleft entry hentry).1
    · intro entry hentry
      exact h.loadable entry (hleft entry hentry).1
    · intro entry hentry
      exact h.onTime entry (hleft entry hentry).1
  · cases erased

theorem inv_step {event : Event} (hsturdy : Sturdy s event) (hstep : Step convert s event s') : Inv convert s' := by
  cases hstep with
  | build parsed => exact inv_build h (onTime_parseFromJson parsed)
  | updateScheduledTime found => exact inv_updateScheduledTime h _ found
  | snooze found => exact inv_snooze h _ found
  | setAssetConfiguration found => exact inv_setAssetConfiguration h _ found
  | changeState found =>
    have hcurrent := h.current _ (mem_of_getElem? found)
    exact inv_put h found rfl rfl rfl hcurrent
  | store found stored => exact inv_store h (hsturdy _ found) found stored
  | modify found modified =>
    obtain ⟨⟨position,kept⟩,hkept,hposition,hassets⟩ := hsturdy _ found
    cases hposition
    exact inv_modify h found hkept hassets modified
  | erase found erased =>
    obtain ⟨⟨position,kept⟩,hkept,hposition⟩ := hsturdy
    cases hposition
    exact inv_erase h found hkept erased

end

/-- In every run whose steps meet the condition, a load succeeds and returns the
alerts that are stored and not erased, each as it was last stored or modified. -/
theorem load_returns_kept (convert : String → Option ℤ) (events : List Event) (s : Client)
    (run : Run (Guarded (Step convert) Sturdy) Client.init events s) : ∃ loaded,s.storage.load convert=(true,loaded) ∧
      List.Forall₂ (fun alert entry => Agrees alert entry.2) loaded s.kept := by
  have hinv : Inv convert s := by
    refine run.invariant (Inv convert) inv_init ?_
    rintro u event v hu ⟨hsturdy,hstep⟩
    exact inv_step hu hsturdy hstep
  exact load_of_inv hinv

def newYear (time : String) : Option ℤ :=
  if time = "2026-01-01T00:00:00+0000" then some 1767225600
  else if time = "2026-01-01T00:00:09+0000" then some 1767225609
  else none

/-- A payload with an asset that is played twice and in the background. -/
def alarmPayload (token : String) (loopCount : ℤ) : Payload where
  token := some token
  scheduledTime := some "2026-01-01T00:00:00+0000"
  assets := some [⟨some "a",some "https://a"⟩]
  assetPlayOrder := some [some "a",some "a"]
  loopCount := some loopCount
  loopPauseInMilliSeconds := some 500
  backgroundAlertAsset := some "a"

/-- Of two alerts one is given another time, the other is erased. -/
theorem load_returns_kept_two : ∃ (events : List Event) (s : Client),
      Run (Guarded (Step newYear) Sturdy) Client.init events s ∧
      (s.kept.map fun entry => (entry.1,entry.2.token,entry.2.dynamicData.timePoint.timeUnix)) =
        [(0,"t",1767225609)] ∧ ∃ loaded,s.storage.load newYear=(true,loaded) ∧
        List.Forall₂ (fun alert entry => Agrees alert entry.2) loaded s.kept := by
  have hrun : Run (Guarded (Step newYear) Sturdy) Client.init
      [.build .alarm (alarmPayload "t" 2),.build .timer (alarmPayload "u" 3),.store 0,.store 1,
        .updateScheduledTime 0 "2026-01-01T00:00:09+0000",.modify 0,.erase 1] _ :=
    ((((((Run.refl.snoc ⟨trivial,.build rfl⟩).snoc ⟨trivial,.build rfl⟩).snoc
      ⟨by decide,.store rfl rfl⟩).snoc ⟨by decide,.store rfl rfl⟩).snoc
      ⟨trivial,.updateScheduledTime rfl⟩).snoc ⟨by decide,.modify rfl rfl⟩).snoc
      ⟨by decide,.erase rfl rfl⟩
  exact ⟨_,_,hrun,rfl,load_returns_kept newYear _ _ hrun⟩

/-- An alert with a negative loop count is stored, and nothing can be loaded then. -/
theorem negative_loop_count_fails_load : ¬∀ (convert : String → Option ℤ) (events : List Event) (s : Client),
      Run (Step convert) Client.init events s → ∃ loaded,s.storage.load convert=(true,loaded) ∧
        List.Forall₂ (fun alert entry => Agrees alert entry.2) loaded s.kept := by
  intro hall
  have hrun : Run (Step newYear) Client.init [.build .alarm (alarmPayload "t" (-1)),.store 0] _ :=
    (Run.refl.snoc (.build rfl)).snoc (.store rfl rfl)
  obtain ⟨loaded,hload,_⟩ := hall newYear _ _ hrun
  have hfails : (false,[])=(true,loaded) := hload
  cases hfails

end AlexaClientSDK.AlertRoundTrip
