import AlexaClientSDK.LabelledRuns
import AlexaClientSDK.SharedAVSSettingProtocol

/-!
# Every request is handled as its own kind

A task takes whatever request is pending. When every request finds the tasks that wait for one to be of its own kind,
each gets the notifications, the status and the event of the method that made it. Otherwise it is handled as if the
other method had made it.
-/

namespace AlexaClientSDK.SettingRequests

open List LabelledRuns SharedAVSSettingProtocol Protocol

variable {κ : Type} {p p' : Protocol κ}

/-- What came of a request. -/
inductive Outcome
  /-- It could not be applied. -/
  | refused (value : String)
  /-- It could not be stored. -/
  | reverted (value : String)
  | stored (value : String)

/-- What has to be done for a request of a kind. -/
def handling : Kind → Outcome → List Mark
  | .localChange,.refused _ => [.notified .localChangeInProgress,.notified .localChangeFailed]
  | .localChange,.reverted _ => [.notified .localChangeInProgress,.notified .localChangeFailed]
  | .localChange,.stored value =>
    [.notified .localChangeInProgress,.stored value .localChangeInProgress,.notified .localChange,.sent .changed value]
  | .avsChange,.refused value =>
    [.notified .avsChangeInProgress,.notified .avsChangeFailed,.sent .report value]
  | .avsChange,.reverted value =>
    [.notified .avsChangeInProgress,.notified .avsChangeFailed,.sent .report value]
  | .avsChange,.stored value =>
    [.notified .avsChangeInProgress,.stored value .avsChangeInProgress,.notified .avsChange,.sent .report value]

/-- The request that is being handled. -/
def current : Stage κ → List (Record κ)
  | .applying _ record | .storing _ record _ | .sending _ record _ => [record]
  | _ => []

structure Handles (p : Protocol κ) : Prop where
  own : ∀ record∈p.handled,∃ outcome,record.marks=handling record.request.kind outcome
  begun : ∀ record∈current p.stage,∃ outcome,record.marks <+: handling record.request.kind outcome
  /-- A request is taken when no other was made after it. -/
  latest : ∀ record∈p.handled++current p.stage,record.request.number+1=record.made
  /-- No request is taken twice, or after a later one. -/
  once : (p.handled++current p.stage).Pairwise fun earlier later =>
    earlier.request.number<later.request.number

/-- The kind of the next task that is going to take a request. -/
def nextKind : List Task → Option Kind
  | [] => none
  | .request kind::_ => some kind
  | .synchronize::queue => nextKind queue

section

variable (p)

/-- The kind of the request that `restoreValue` makes. -/
def restoreKind : SettingStatus → Option Kind
  | .notAvailable => some (if p.isDefaultCloudAuthoritative then .avsChange else .localChange)
  | .localChangeInProgress => some .localChange
  | .avsChangeInProgress => some .avsChange
  | .synchronized => none

/-- The kind of the request that a step makes. -/
def requestKind : Event κ → Option Kind
  | .localChange _ => some .localChange
  | .avsChange _ => some .avsChange
  | .restoreRequest status _ => restoreKind p status
  | _ => none

/-- While a task waits to take one of the other method. -/
def SameKind (event : Event κ) : Prop :=
  ∀ kind waiting,requestKind p event=some kind → nextKind p.queue=some waiting → waiting=kind

end

/-- What was done for the request that is being handled. -/
def Placed : Stage κ → Prop
  | .applying kind record | .storing kind record _ =>
    record.request.kind=kind ∧ record.marks=[.notified kind.inProgress]
  | .sending kind record value =>
    record.request.kind=kind ∧ ∃ outcome,record.marks++[.sent kind.event value]=handling kind outcome
  | _ => True

/-- What holds between two steps. -/
structure Inv (p : Protocol κ) : Prop where
  own : ∀ record∈p.handled,∃ outcome,record.marks=handling record.request.kind outcome
  placed : Placed p.stage
  latest : ∀ record∈p.handled++current p.stage,record.request.number+1=record.made
  once : (p.handled++current p.stage).Pairwise fun earlier later =>
    earlier.request.number<later.request.number
  made : ∀ record∈p.handled++current p.stage,record.request.number<p.made
  /-- The pending request is the latest, and the next task is of its kind. -/
  pending : ∀ request,p.pendingRequest=some request →
    request.number+1=p.made ∧ nextKind p.queue=some request.kind ∧
      ∀ record∈p.handled++current p.stage,record.request.number<request.number

variable {kind : Kind}

theorem nextKind_append (queue : List Task) (task : Task) (h : nextKind queue=some kind) :
    nextKind (queue++[task])=some kind := by
  induction queue with
  | nil => cases h
  | cons first queue ih =>
    cases first with
    | request => exact h
    | synchronize => exact ih h

theorem nextKind_append_request (queue : List Task) (kind : Kind)
    (h : ∀ waiting,nextKind queue=some waiting → waiting=kind) : nextKind (queue++[.request kind])=some kind := by
  cases hnext : nextKind queue with
  | some waiting =>
    rw [←h waiting hnext]
    exact nextKind_append queue _ hnext
  | none =>
    clear h
    induction queue with
    | nil => rfl
    | cons first queue ih =>
      cases first with
      | request => cases hnext
      | synchronize => exact ih hnext

/-- A step that neither makes nor handles a request. -/
theorem Inv.congr (h : Inv p) (hhandled : p'.handled=p.handled) (hcurrent : current p'.stage=current p.stage)
    (hplaced : Placed p'.stage) (hmade : p'.made=p.made) (hpending : ∀ request,p'.pendingRequest=some request →
      p.pendingRequest=some request ∧ nextKind p'.queue=nextKind p.queue) : Inv p' := by
  refine ⟨?_,hplaced,?_,?_,?_,?_⟩
  · rw [hhandled]
    exact h.own
  · rw [hhandled,hcurrent]
    exact h.latest
  · rw [hhandled,hcurrent]
    exact h.once
  · rw [hhandled,hcurrent,hmade]
    exact h.made
  · intro request hrequest
    obtain ⟨hrequest',hqueue⟩ := hpending request hrequest
    rw [hhandled,hcurrent,hmade,hqueue]
    exact h.pending request hrequest'

theorem inv_request (h : Inv p) (change : κ)
    (hkind : ∀ waiting,nextKind p.queue=some waiting → waiting=kind) : Inv (p.request kind change) := by
  refine {h with made := ?_,pending := ?_}
  · intro record hmem
    exact Nat.lt_succ_of_lt (h.made record hmem)
  · intro request hrequest
    cases hrequest
    refine ⟨rfl,?_,h.made⟩
    unfold request
    cases hpending : p.pendingRequest with
    | none => exact nextKind_append_request p.queue kind hkind
    | some before =>
      have hnext := (h.pending before hpending).2.1
      rw [hkind _ hnext] at hnext
      exact hnext

theorem inv_restoreRequest (h : Inv p) {status : SettingStatus} (change : κ)
    (hkind : ∀ kind waiting,restoreKind p status=some kind → nextKind p.queue=some waiting →
      waiting=kind) : Inv (p.restoreRequest status change) := by
  cases status with
  | notAvailable =>
    unfold restoreRequest
    dsimp only
    unfold restoreKind at hkind
    split
    · rename_i hcloud
      rw [if_pos hcloud] at hkind
      exact inv_request h change fun waiting => hkind _ waiting rfl
    · rename_i hcloud
      rw [if_neg hcloud] at hkind
      exact inv_request h change fun waiting => hkind _ waiting rfl
  | localChangeInProgress | avsChangeInProgress => exact inv_request h change fun waiting => hkind _ waiting rfl
  | synchronized => exact h

theorem inv_takeRequest (h : Inv p) {queue : List Task} (waits : p.stage=.idle)
    (next : p.queue=.request kind::queue) : Inv (p.takeRequest kind queue) := by
  unfold takeRequest
  cases hpending : p.pendingRequest with
  | none =>
    refine h.congr rfl rfl h.placed rfl ?_
    exact nofun
  | some request =>
    obtain ⟨hmade,hnext,hless⟩ := h.pending request hpending
    rw [next] at hnext
    have hkind : request.kind=kind := (Option.some.inj hnext).symm
    have hidle : p.handled++current p.stage=p.handled := by
      rw [waits]
      exact append_nil _
    rw [hidle] at hless
    have hlatest := h.latest
    have honce := h.once
    have hbefore := h.made
    rw [hidle] at hlatest honce hbefore
    refine ⟨h.own,⟨hkind,rfl⟩,?_,?_,?_,?_⟩
    · intro record hmem
      rcases mem_append.mp hmem with hmem|hmem
      · exact hlatest record hmem
      · rw [mem_singleton.mp hmem]
        exact hmade
    · refine pairwise_append.mpr ⟨honce,pairwise_singleton _ _,?_⟩
      intro earlier hearlier later hlater
      rw [mem_singleton.mp hlater]
      exact hless earlier hearlier
    · intro record hmem
      rcases mem_append.mp hmem with hmem|hmem
      · exact hbefore record hmem
      · rw [mem_singleton.mp hmem]
        change request.number<p.made
        omega
    · exact nofun

variable {record : Record κ}

theorem Inv.advance (h : Inv p) (record' : Record κ) (hcurrent : current p.stage=[record])
    (hrequest : record'.request=record.request) (hmade : record'.made=record.made)
    (hall : p'.handled++current p'.stage=p.handled++[record'])
    (hown : ∀ done∈p'.handled,∃ outcome,done.marks=handling done.request.kind outcome)
    (hplaced : Placed p'.stage) (hcount : p'.made=p.made) (hpending : p'.pendingRequest=p.pendingRequest)
    (hqueue : p'.queue=p.queue) : Inv p' := by
  have hmem : record∈p.handled++current p.stage := by
    rw [hcurrent]
    exact mem_append_right _ mem_cons_self
  -- a request that was taken has a record with the same number in both states
  have hsame : ∀ done∈p'.handled++current p'.stage,∃ done'∈p.handled++current p.stage,
      done.request=done'.request ∧ done.made=done'.made := by
    intro done hdone
    rw [hall] at hdone
    rcases mem_append.mp hdone with hdone|hdone
    · exact ⟨done,mem_append_left _ hdone,rfl,rfl⟩
    · rw [mem_singleton.mp hdone]
      exact ⟨record,hmem,hrequest,hmade⟩
  refine ⟨hown,hplaced,?_,?_,?_,?_⟩
  · intro done hdone
    obtain ⟨done',hdone',hrequest',hmade'⟩ := hsame done hdone
    rw [hrequest',hmade']
    exact h.latest done' hdone'
  · have honce := h.once
    rw [hcurrent] at honce
    obtain ⟨hbefore,_,hlast⟩ := pairwise_append.mp honce
    rw [hall]
    refine pairwise_append.mpr ⟨hbefore,pairwise_singleton _ _,?_⟩
    intro earlier hearlier later hlater
    rw [mem_singleton.mp hlater,hrequest]
    exact hlast earlier hearlier record mem_cons_self
  · intro done hdone
    obtain ⟨done',hdone',hrequest',_⟩ := hsame done hdone
    rw [hrequest',hcount]
    exact h.made done' hdone'
  · intro request hsome
    rw [hpending] at hsome
    obtain ⟨hnumber,hnext,hless⟩ := h.pending request hsome
    rw [hcount,hqueue]
    refine ⟨hnumber,hnext,?_⟩
    intro done hdone
    obtain ⟨done',hdone',hrequest',_⟩ := hsame done hdone
    rw [hrequest']
    exact hless done' hdone'

theorem own_append {handled : List (Record κ)} (record : Record κ) (outcome : Outcome)
    (h : ∀ done∈handled,∃ outcome,done.marks=handling done.request.kind outcome)
    (hrecord : record.marks=handling record.request.kind outcome) :
    ∀ done∈handled++[record],∃ outcome,done.marks=handling done.request.kind outcome := by
  intro done hdone
  rcases mem_append.mp hdone with hdone|hdone
  · exact h done hdone
  · rw [mem_singleton.mp hdone]
    exact ⟨outcome,hrecord⟩

theorem inv_applyChange (h : Inv p) (ok : Bool) (value : String)
    (applies : p.stage=.applying kind record) : Inv (p.applyChange kind record ok value) := by
  have hcurrent : current p.stage=[record] := by
    rw [applies]
    rfl
  have hplaced := h.placed
  rw [applies] at hplaced
  obtain ⟨hkind,hmarks⟩ := hplaced
  unfold applyChange
  split
  · exact h.advance record hcurrent rfl rfl rfl h.own ⟨hkind,hmarks⟩ rfl rfl rfl
  · cases kind with
    | localChange =>
      refine h.advance (record.mark (.notified .localChangeFailed)) hcurrent rfl rfl (append_nil _)
        (own_append _ (.refused value) h.own ?_) trivial rfl rfl rfl
      change record.marks++_=handling record.request.kind _
      rw [hkind,hmarks]
      rfl
    | avsChange =>
      refine h.advance (record.mark (.notified .avsChangeFailed)) hcurrent rfl rfl rfl h.own
        ⟨hkind,.refused value,?_⟩ rfl rfl rfl
      change record.marks++_++_=_
      rw [hmarks]
      rfl

theorem inv_storeSetting (h : Inv p) {value : String} (stored : Bool)
    (reverted : String) (stores : p.stage=.storing kind record value) :
    Inv (p.storeSetting kind record value stored reverted) := by
  have hcurrent : current p.stage=[record] := by
    rw [stores]
    rfl
  have hplaced := h.placed
  rw [stores] at hplaced
  obtain ⟨hkind,hmarks⟩ := hplaced
  unfold storeSetting
  split
  · refine h.advance ((record.mark (.stored value kind.status)).mark (.notified kind.done)) hcurrent rfl rfl rfl
      h.own ⟨hkind,.stored value,?_⟩ rfl rfl rfl
    change record.marks++_++_++_=_
    rw [hmarks]
    cases kind with
    | localChange => rfl
    | avsChange => rfl
  · cases kind with
    | localChange =>
      refine h.advance (record.mark (.notified .localChangeFailed)) hcurrent rfl rfl (append_nil _)
        (own_append _ (.reverted reverted) h.own ?_) trivial rfl rfl rfl
      change record.marks++_=handling record.request.kind _
      rw [hkind,hmarks]
      rfl
    | avsChange =>
      refine h.advance (record.mark (.notified .avsChangeFailed)) hcurrent rfl rfl rfl h.own
        ⟨hkind,.reverted reverted,?_⟩ rfl rfl rfl
      change record.marks++_++_=_
      rw [hmarks]
      rfl

theorem inv_sendEvent (h : Inv p) {value : String} (ok : Bool)
    (sends : p.stage=.sending kind record value) : Inv (p.sendEvent kind record value ok) := by
  have hcurrent : current p.stage=[record] := by
    rw [sends]
    rfl
  have hplaced := h.placed
  rw [sends] at hplaced
  obtain ⟨hkind,outcome,hmarks⟩ := hplaced
  have hown := own_append (record.mark (.sent kind.event value)) outcome h.own (hmarks.trans (by rw [←hkind]; rfl))
  cases ok with
  | true | false =>
    exact h.advance (record.mark (.sent kind.event value)) hcurrent rfl rfl (append_nil _) hown trivial rfl rfl rfl

theorem inv_new (isDefaultCloudAuthoritative : Bool) (storage : Option Row) :
    Inv (new κ isDefaultCloudAuthoritative storage) := by
  refine ⟨?_,trivial,?_,List.Pairwise.nil,?_,?_⟩
  · exact nofun
  · exact nofun
  · exact nofun
  · exact nofun

theorem inv_step (h : Inv p) {event : Event κ} (hkind : SameKind p event) (hstep : Step p event p') : Inv p' := by
  cases hstep with
  | localChange change | avsChange change => exact inv_request h change fun waiting => hkind _ waiting rfl
  | restoreValue => exact {h with}
  | restoreRequest => exact {inv_restoreRequest h _ hkind with}
  | clearData => exact {h with pending := fun request hrequest => by cases hrequest}
  | connectionStatusChanged isConnected =>
    cases isConnected with
    | false => exact h
    | true =>
      refine {h with pending := ?_}
      intro request hrequest
      obtain ⟨hnumber,hnext,hless⟩ := h.pending request hrequest
      exact ⟨hnumber,nextKind_append _ _ hnext,hless⟩
  | takeRequest waits next => exact inv_takeRequest h waits next
  | applyChange ok value applies => exact inv_applyChange h ok value applies
  | storeSetting stored reverted stores => exact inv_storeSetting h stored reverted stores
  | sendEvent ok sends => exact inv_sendEvent h ok sends
  | synchronize waits next =>
    have hsame : ∀ queue',p.queue=.synchronize::queue' → nextKind queue'=nextKind p.queue := by
      intro queue' hqueue
      rw [hqueue]
      rfl
    have hidle : current p.stage=[] := by
      rw [waits]
      rfl
    unfold executeSynchronizeOnConnected
    dsimp only
    split
    · exact h.congr rfl hidle.symm trivial rfl fun request hrequest => ⟨hrequest,hsame _ next⟩
    · exact h.congr rfl hidle.symm trivial rfl fun request hrequest => ⟨hrequest,hsame _ next⟩
    · exact h.congr rfl rfl h.placed rfl fun request hrequest => ⟨hrequest,hsame _ next⟩
  | sendStored ok sends =>
    have hidle : current p.stage=[] := by
      rw [sends]
      rfl
    cases ok with
    | true | false => exact h.congr rfl hidle.symm trivial rfl fun request hrequest => ⟨hrequest,rfl⟩
  | updateSettingStatus updated updates =>
    have hidle : current p.stage=[] := by
      rw [updates]
      rfl
    exact h.congr rfl hidle.symm trivial rfl fun request hrequest => ⟨hrequest,rfl⟩

theorem begun_of_placed {stage : Stage κ} (h : Placed stage) :
    ∀ record∈current stage,∃ outcome,record.marks <+: handling record.request.kind outcome := by
  have hbegins : ∀ kind : Kind,[Mark.notified kind.inProgress] <+: handling kind (.stored "") := by
    intro kind
    cases kind with
    | localChange | avsChange => exact prefix_append _ _
  intro record hmem
  cases stage with
  | applying kind | storing kind =>
    cases mem_singleton.mp hmem
    refine ⟨.stored "",?_⟩
    rw [h.1,h.2]
    exact hbegins kind
  | sending =>
    cases mem_singleton.mp hmem
    obtain ⟨hkind,outcome,hmarks⟩ := h
    refine ⟨outcome,?_⟩
    rw [hkind,←hmarks]
    exact prefix_append _ _
  | _ => cases hmem

/-- Every request that is taken is handled as its own kind, and only the latest one is
taken, in every run in which no request meets a task of the other kind. -/
theorem handled_as_own_kind (isDefaultCloudAuthoritative : Bool) (storage : Option Row) (events : List (Event κ))
    (p : Protocol κ)
    (run : Run (Guarded Step SameKind) (new κ isDefaultCloudAuthoritative storage) events p) :
    Handles p := by
  have hinv : Inv p := by
    refine run.invariant Inv (inv_new isDefaultCloudAuthoritative storage) ?_
    rintro s event t hs ⟨hkind,hstep⟩
    exact inv_step hs hkind hstep
  exact ⟨hinv.own,begun_of_placed hinv.placed,hinv.latest,hinv.once⟩

/-- Two local changes, of which the second is applied, and one by AVS. -/
theorem handled_as_own_kind_three : ∃ (events : List (Event ℕ)) (p : Protocol ℕ),
      Run (Guarded Step SameKind) (new ℕ false none) events p ∧ Handles p ∧
      p.handled.map (fun record => record.request.change)=[1,2] := by
  have hnone : ∀ (p : Protocol ℕ) (event : Event ℕ),requestKind p event=none → SameKind p event := by
    intro p event hnone kind waiting hsome
    rw [hnone] at hsome
    cases hsome
  have hsame : ∀ (p : Protocol ℕ) (event : Event ℕ) (kind : Kind),requestKind p event=some kind →
      nextKind p.queue=none ∨ nextKind p.queue=some kind → SameKind p event := by
    intro p event kind hkind hnext kind' waiting hkind' hwaiting
    rw [hwaiting] at hnext
    rw [hkind] at hkind'
    rcases hnext with hnext|hnext
    · cases hnext
    · exact (Option.some.inj hnext).trans (Option.some.inj hkind')
  have hrun : Run (Guarded Step SameKind) (new ℕ false none) _ _ :=
    (((((((((Run.refl.snoc ⟨hsame _ _ .localChange rfl (.inl (by decide)),.localChange 0⟩).snoc
      ⟨hsame _ _ .localChange rfl (.inr (by decide)),.localChange 1⟩).snoc
      ⟨hnone _ _ rfl,@Step.takeRequest _ _ .localChange [] (by decide) (by decide)⟩).snoc
      ⟨hnone _ _ rfl,.applyChange true "1" rfl⟩).snoc
      ⟨hnone _ _ rfl,.storeSetting true "" rfl⟩).snoc
      ⟨hnone _ _ rfl,.sendEvent false rfl⟩).snoc
      ⟨hsame _ _ .avsChange rfl (.inl (by decide)),.avsChange 2⟩).snoc
      ⟨hnone _ _ rfl,@Step.takeRequest _ _ .avsChange [] (by decide) (by decide)⟩).snoc
      ⟨hnone _ _ rfl,.applyChange false "1" rfl⟩).snoc
      ⟨hnone _ _ rfl,.sendEvent true rfl⟩
  exact ⟨_,_,hrun,handled_as_own_kind false none _ _ hrun,by decide⟩

/-- It comes before the task of a local one, and is handled as local. -/
theorem avs_change_taken_for_local :
    ¬∀ (events : List (Event ℕ)) (p : Protocol ℕ),Run Step (new ℕ false none) events p → Handles p := by
  intro hall
  have hrun : Run Step (new ℕ false none) _ _ :=
    ((Run.refl.snoc (.localChange 0)).snoc (.avsChange 1)).snoc
      (@Step.takeRequest _ _ .localChange [] (by decide) (by decide))
  obtain ⟨outcome,hbegun⟩ := (hall _ _ hrun).begun ⟨⟨1,.avsChange,1⟩,2,[.notified .localChangeInProgress]⟩ mem_cons_self
  cases outcome with
  | refused | reverted | stored => exact absurd (cons_prefix_cons.mp hbegun).1 (by decide)

end AlexaClientSDK.SettingRequests
