import AlexaClientSDK.LabelledRuns
import AlexaClientSDK.Settings

/-!
# A synchronized setting is what AVS was told

A value is stored before it is sent, and the status becomes synchronized after the answer. The report of a change that
was refused carries what the setting has, and when that is not what the storage holds, the storage is called
synchronized all the same.
-/

namespace AlexaClientSDK.SettingSynchronization

open LabelledRuns Settings
open SharedAVSSettingProtocol hiding Event Step

variable {V : Type} {s s' : Setting V}

section

variable (p : Protocol (Change V))

/-- The value of the last event that was sent with success. -/
def lastSent : Option String := p.events.getLast?.map Prod.snd

/-- What is stored as synchronized is what was sent last. -/
def Synchronized : Prop :=
  ∀ row,p.storage=some row → row.status=.synchronized → lastSent p=some row.value

/-- The operations of the storage succeed. -/
def Succeeds : Event V → Prop
  | .clearData _ deleted => deleted=true
  | .storeSetting stored _ => stored=true
  | .updateSettingStatus updated => updated=true
  | _ => True

/-- A change that fails is reported with the stored value. -/
def ReportsStored (conversion : Conversion V) (s : Setting V) : Event V → Prop
  | .applyChange accepts => ∀ record row,s.protocol.stage=.applying .avsChange record →
      (s.applyChange conversion record.request.change accepts).2.1=false → s.protocol.storage=some row →
      (s.applyChange conversion record.request.change accepts).2.2=row.value
  | _ => True

/-- What is being sent is what is stored, if anything is. -/
def Carries (value : String) : Prop :=
  ∀ row,p.storage=some row → row.value=value

/-- What holds at a stage of the executor. -/
def Placed : Prop :=
  match p.stage with
  | .sending _ _ value | .synchronizing _ value => Carries p value
  | .updating => ∀ row,p.storage=some row → lastSent p=some row.value
  | _ => True

end

/-- What holds between two steps. -/
structure Inv (p : Protocol (Change V)) : Prop where
  synchronized : Synchronized p
  placed : Placed p

variable {p p' : Protocol (Change V)}

theorem inv_storeSetting (kind : Kind) (record : Record (Change V)) (value reverted : String) :
    Inv (p.storeSetting kind record value true reverted) := by
  refine ⟨?_,?_⟩
  · intro row hrow hstatus
    cases hrow
    cases kind with
    | localChange => cases hstatus
    | avsChange => cases hstatus
  · intro row hrow
    cases hrow
    rfl

section

variable (h : Inv p)
include h

/-- A step that touches neither the storage nor the events, nor the executor. -/
theorem Inv.congr (hstorage : p'.storage=p.storage) (hevents : p'.events=p.events)
    (hstage : p'.stage=p.stage) : Inv p' := by
  obtain ⟨hsync,hplaced⟩ := h
  constructor
  · unfold Synchronized lastSent
    rw [hstorage,hevents]
    exact hsync
  · unfold Placed Carries lastSent
    rw [hstorage,hevents,hstage]
    exact hplaced

/-- A step of the executor that touches neither the storage nor the events. -/
theorem Inv.advance (hstorage : p'.storage=p.storage) (hevents : p'.events=p.events)
    (hplaced : Placed p') : Inv p' := by
  refine ⟨?_,hplaced⟩
  have hsync := h.synchronized
  unfold Synchronized lastSent at hsync ⊢
  rw [hstorage,hevents]
  exact hsync

theorem inv_request (kind : Kind) (change : Change V) : Inv (p.request kind change) :=
  h.congr rfl rfl rfl

theorem inv_restoreRequest (status : SettingStatus) (change : Change V) : Inv (p.restoreRequest status change) := by
  unfold Protocol.restoreRequest
  split
  · split
    · exact inv_request h .avsChange change
    · exact inv_request h .localChange change
  · exact inv_request h .localChange change
  · exact inv_request h .avsChange change
  · exact h

omit h in
theorem inv_clearData : Inv (p.clearData true) := by
  refine ⟨?_,?_⟩
  · exact nofun
  · change match p.stage with
      | .sending _ _ value | .synchronizing _ value => Carries (p.clearData true) value
      | .updating => ∀ row,(p.clearData true).storage=some row → lastSent (p.clearData true)=some row.value
      | _ => True
    split
    · exact nofun
    · exact nofun
    · exact nofun
    · trivial

theorem inv_takeRequest (kind : Kind) (queue : List Task) : Inv (p.takeRequest kind queue) := by
  unfold Protocol.takeRequest
  split
  · exact h.congr rfl rfl rfl
  · exact h.advance rfl rfl trivial

/-- A task has applied its request. What it is going to report is stored. -/
theorem inv_applyChange (kind : Kind) (record : Record (Change V)) (ok : Bool) (value : String)
    (hreports : kind=.avsChange → ok=false → Carries p value) : Inv (p.applyChange kind record ok value) := by
  unfold Protocol.applyChange
  split
  · exact h.advance rfl rfl trivial
  · rename_i hfalse
    cases kind with
    | localChange => exact h.advance rfl rfl trivial
    | avsChange => exact h.advance rfl rfl (hreports rfl ((Bool.not_eq_true _).mp hfalse))

theorem inv_answer (event : SettingEvent) {value : String} (ok : Bool) (hcarries : Carries p value) :
    Inv (p.answer event value ok) := by
  cases ok with
  | false => exact h.advance rfl rfl trivial
  | true =>
    have hlast : ∀ row,p.storage=some row → lastSent (p.answer event value true)=some row.value := by
      intro row hrow
      unfold lastSent Protocol.answer
      rw [if_pos rfl,List.getLast?_concat,Option.map_some,hcarries row hrow]
    exact ⟨fun row hrow _ => hlast row hrow,hlast⟩

theorem inv_synchronize (queue : List Task) : Inv (p.executeSynchronizeOnConnected queue) := by
  have hloaded : Carries p (loadSetting p.storage).2 := by
    intro row hrow
    rw [hrow]
    rfl
  unfold Protocol.executeSynchronizeOnConnected
  dsimp only
  split
  · exact h.advance rfl rfl hloaded
  · exact h.advance rfl rfl hloaded
  · exact h.congr rfl rfl rfl

theorem inv_updateSettingStatus (updates : p.stage=.updating) : Inv (p.updateSettingStatus true) := by
  have hplaced := h.placed
  unfold Placed at hplaced
  rw [updates] at hplaced
  refine ⟨?_,trivial⟩
  intro row hrow _
  obtain ⟨before,hbefore,rfl⟩ := Option.map_eq_some_iff.mp hrow
  exact hplaced before hbefore

end

theorem inv_new (h : Synchronized p) (defaultValue : V) :
    Inv (Setting.new defaultValue p.isDefaultCloudAuthoritative p.storage p.events).protocol :=
  ⟨h,trivial⟩

/-- Every step that meets the condition keeps the invariant. -/
theorem inv_step {conversion : Conversion V} {defaultValue : V} {event : Event V} (h : Inv s.protocol)
    (hsucceeds : Succeeds event) (hreports : ReportsStored conversion s event)
    (hstep : Step conversion defaultValue s event s') : Inv s'.protocol := by
  cases hstep with
  | setLocalChange => exact inv_request h .localChange _
  | setAvsChange => exact inv_request h .avsChange _
  | clearData =>
    cases hsucceeds
    exact inv_clearData
  | restoreValue => exact h.congr rfl rfl rfl
  | restore accepts loaded =>
    rename_i status change
    unfold Setting.restore
    split
    · dsimp only
      split
      · exact h.congr rfl rfl rfl
      · exact h.congr rfl rfl rfl
    · exact (inv_restoreRequest h status change).congr rfl rfl rfl
  | connectionStatusChanged isConnected =>
    cases isConnected with
    | true => exact h.congr rfl rfl rfl
    | false => exact h
  | takeRequest => exact inv_takeRequest h _ _
  | applyChange accepts applies =>
    rename_i kind record
    refine inv_applyChange h kind record _ _ ?_
    intro hkind hrefused row hrow
    rw [hkind] at applies
    exact (hreports record row applies hrefused hrow).symm
  | storeSetting =>
    cases hsucceeds
    exact inv_storeSetting _ _ _ ""
  | sendEvent ok sends =>
    have hplaced := h.placed
    unfold Placed at hplaced
    rw [sends] at hplaced
    exact (inv_answer h _ ok hplaced).congr rfl rfl rfl
  | synchronize => exact inv_synchronize h _
  | sendStored ok sends =>
    have hplaced := h.placed
    unfold Placed at hplaced
    rw [sends] at hplaced
    exact inv_answer h _ ok hplaced
  | updateSettingStatus updated updates =>
    cases hsucceeds
    exact inv_updateSettingStatus h updates
  | restart => exact inv_new h.synchronized defaultValue

/-- What is stored as synchronized is what was sent last, in every run in which refused
changes are reported with the stored value. -/
theorem synchronized_is_sent (conversion : Conversion V) (defaultValue : V) (isDefaultCloudAuthoritative : Bool)
    (events : List (Event V)) (s : Setting V) (run : Run (Guarded (Step conversion defaultValue)
        fun s event => Succeeds event ∧ ReportsStored conversion s event)
      (Setting.new defaultValue isDefaultCloudAuthoritative none []) events s) : Synchronized s.protocol := by
  have hinv : Inv s.protocol := by
    refine run.invariant (fun s => Inv s.protocol) ?_ ?_
    · refine ⟨?_,trivial⟩
      exact nofun
    · rintro s event t hs ⟨⟨hsucceeds,hreports⟩,hstep⟩
      exact inv_step hs hsucceeds hreports hstep
  exact hinv.synchronized

def boolConversion : Conversion Bool where
  toSettingString := fun value => (true,if value then "true" else "false")
  fromSettingString := fun string value =>
    if string = "true" then (true,true) else if string = "false" then (true,false) else (false,value)

/-- After a restart it is sent, or reported as stored. -/
theorem synchronized_is_sent_after_restart : ∃ (events : List (Event Bool)) (s : Setting Bool),
      Run (Guarded (Step boolConversion false) fun s event => Succeeds event ∧ ReportsStored boolConversion s event)
        (Setting.new false true none []) events s ∧
      Synchronized s.protocol ∧ s.protocol.storage=some ⟨"true",.synchronized⟩ ∧ lastSent s.protocol=some "true" := by
  have hreports : ∀ (s : Setting Bool) (accepts : Bool) (kind : Kind) (record : Record (Change Bool)),
      s.protocol.stage=.applying kind record →
      (s.applyChange boolConversion record.request.change accepts).2.1=true ∨
        s.protocol.storage=some ⟨(s.applyChange boolConversion record.request.change accepts).2.2,.synchronized⟩ →
      ReportsStored boolConversion s (.applyChange accepts) := by
    intro s accepts kind record hstage hor record' row hstage' hrefused hrow
    rw [hstage] at hstage'
    cases hstage'
    rcases hor with hok|hstored
    · rw [hok] at hrefused
      cases hrefused
    · rw [hstored] at hrow
      cases hrow
      rfl
  have hfirst : Run (Guarded (Step boolConversion false)
      fun s event => Succeeds event ∧ ReportsStored boolConversion s event) (Setting.new false true none []) _ _ :=
    (((((Run.refl.allow (.restoreValue rfl rfl) ⟨trivial,trivial⟩).allow (.restore true rfl) ⟨trivial,trivial⟩).allow
      (.setAvsChange true rfl) ⟨trivial,trivial⟩).allow
      (@Step.takeRequest _ _ _ _ .avsChange [] rfl rfl) ⟨trivial,trivial⟩).allow
      (.applyChange true rfl) ⟨trivial,hreports _ true _ _ rfl (.inl rfl)⟩).allow
      (.storeSetting true true rfl) ⟨rfl,trivial⟩
  have hrun : Run (Guarded (Step boolConversion false)
      fun s event => Succeeds event ∧ ReportsStored boolConversion s event) (Setting.new false true none []) _ _ :=
    (((((((((((hfirst.allow (.restart) ⟨trivial,trivial⟩).allow (.restoreValue rfl rfl) ⟨trivial,trivial⟩).allow
      (.restore true rfl) ⟨trivial,trivial⟩).allow
      (@Step.takeRequest _ _ _ _ .avsChange [] rfl rfl) ⟨trivial,trivial⟩).allow
      (.applyChange true rfl) ⟨trivial,hreports _ true _ _ rfl (.inl rfl)⟩).allow
      (.storeSetting true true rfl) ⟨rfl,trivial⟩).allow
      (.sendEvent true rfl) ⟨trivial,trivial⟩).allow
      (.updateSettingStatus true rfl) ⟨rfl,trivial⟩).allow
      (.setAvsChange false rfl) ⟨trivial,trivial⟩).allow
      (@Step.takeRequest _ _ _ _ .avsChange [] rfl rfl) ⟨trivial,trivial⟩).allow
      (.applyChange false rfl) ⟨trivial,hreports _ false _ _ rfl (.inr rfl)⟩).allow
      (.sendEvent true rfl) ⟨trivial,trivial⟩
  exact ⟨_,_,hrun,synchronized_is_sent _ _ _ _ _ hrun,rfl,rfl⟩

/-- A refused value: the default is reported as synchronized. -/
theorem refused_restore_called_synchronized : ¬∀ (events : List (Event Bool)) (s : Setting Bool),
      Run (Guarded (Step boolConversion false) fun _ event => Succeeds event) (Setting.new false true none []) events s →
      Synchronized s.protocol := by
  intro hall
  have hrun : Run (Guarded (Step boolConversion false) fun _ event => Succeeds event)
      (Setting.new false true none []) _ _ :=
    ((((((((((((Run.refl.allow (.restoreValue rfl rfl) trivial).allow (.restore true rfl) trivial).allow
      (.setAvsChange true rfl) trivial).allow
      (@Step.takeRequest _ _ _ _ .avsChange [] rfl rfl) trivial).allow
      (.applyChange true rfl) trivial).allow
      (.storeSetting true true rfl) rfl).allow
      (.restart) trivial).allow
      (.restoreValue rfl rfl) trivial).allow
      (.restore true rfl) trivial).allow
      (@Step.takeRequest _ _ _ _ .avsChange [] rfl rfl) trivial).allow
      (.applyChange false rfl) trivial).allow
      (.sendEvent true rfl) trivial).allow
      (.updateSettingStatus true rfl) rfl
  have hsent : some "false" = some "true" := hall _ _ hrun ⟨"true",.synchronized⟩ rfl rfl
  exact absurd hsent (by decide)

end AlexaClientSDK.SettingSynchronization
