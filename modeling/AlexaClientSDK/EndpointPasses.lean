import AlexaClientSDK.LabelledRuns
import AlexaClientSDK.EndpointMaps
import AlexaClientSDK.EndpointSenders

/-!
# Pending endpoints and the passes that send them

Whoever takes the current sender away puts another in its place or has a pass submitted, and so does whoever makes an
endpoint pending without one. Two exits break the chain: a refused event resets the sender and submits nothing, and a
sender that ends without a report stays.
-/

namespace AlexaClientSDK.EndpointPasses

open LabelledRuns CapabilitiesDelegate Delegate EndpointMaps EndpointSenders

variable {s t : Delegate} {n : ℕ}

/-- The report of a sender that ends with a pass. -/
def submits : Stage → Bool
  | .completed | .stored | .erased | .moved | .reset | .notified => true
  | _ => false

/-- It is going to see the pending endpoints, or to have its sender. -/
def takes : Pass → Bool
  | .connected | .free | .wanted | .replacing _ => true
  | _ => false

/-- It is going to take the pending endpoints, or to have its sender. -/
def renews : Connecting → Bool
  | .begun | .replacing _ => true
  | _ => false

/-- Another thread than the sender's sees to the pending endpoints. -/
def Served (s : Delegate) : Prop :=
  0<s.queue ∨ takes s.pass=true ∨ 0<s.checking ∨ renews s.connecting=true ∨ ∃ n,submits (s.senders n).stage=true

/-- Still sending or retrying, or with a report under way. -/
def sends (sender : Sender) : Bool :=
  match sender.stage with
  | .absent | .ended _ => false
  | .created => sender.observed
  | _ => true

structure Rests (s : Delegate) : Prop where
  connected : s.isConnected=true
  running : s.isShuttingDown=false
  queue : s.queue=0
  pass : s.pass=.idle
  checking : s.checking=0
  connecting : s.connecting=.idle
  senders : ∀ n,sends (s.senders n)=false

/-- Pending endpoints are not left to a sender that has ended, or to nobody: the current sender gives up only without a
connection and as the sender of the operation that was last returned, and is aborted only without a connection; the
storage works; and a refused event, or a pass with nothing to send, leaves none behind that another thread does not see
to. -/
def Allowed (s : Delegate) : Event → Prop
  | .giveUp n => s.current=some n → s.isConnected=false ∧ s.operation=.returned n
  | .abortOperation => ∀ n,s.operation=.returned n → s.current=some n → s.isConnected=false
  | .report n saved => saved=true ∧ ∀ status addOrUpdate delete,
      (s.senders n).stage=.cleared status addOrUpdate delete →
      s.isConnected=false ∨ NonePending s ∨ Served s
  | .createPostConnectOperation loaded => s.connecting=.begun → loaded=false →
      s.isConnected=false ∨ (NonePending s ∧ NoneInFlight s)
  | .executor => ∀ addOrUpdate delete,s.pass=.moved addOrUpdate delete →
      addOrUpdate.entries=[] ∧ delete.entries=[] → s.isConnected=false ∨ NoneInFlight s ∨ Served s
  | _ => True

/-- The stages at which the current sender may be. -/
def attends : Stage → Bool
  | .created | .sending | .completed | .stored | .erased | .moved => true
  | .failed _ | .read _ _ _ | .cleared _ _ _ => true
  | _ => false

/-- It has its observer, or its operation failed without a connection. -/
def Fit (connected : Bool) (operation : Operation) (n : ℕ) (sender : Sender) : Prop :=
  (attends sender.stage=true ∧ (sender.stage=.created ∨ sender.stage=.sending → sender.observed=true)) ∨
  (connected=false ∧ ((operation=.returned n ∧ sender.stage=.ended false) ∨
    (operation=.aborted n ∧ sender.stage≠.absent)))

/-- The current sender goes on, while there is a connection. -/
def CurrentFits (s : Delegate) : Prop :=
  ∀ n,s.current=some n → Fit s.isConnected s.operation n (s.senders n)

theorem currentFits_none (hcurrent : t.current=none) : CurrentFits t := by
  intro n hn
  rw [hcurrent] at hn
  cases hn

theorem currentFits_sendPass (n : ℕ) : CurrentFits (s.sendPass n) := by
  intro m hm
  cases hm
  have hstage : ((s.sendPass n).senders n).stage=.sending :=
    (stage_setStage n n .sending).trans (if_pos rfl)
  have hobserved : ((s.sendPass n).senders n).observed=true :=
    (observed_setStage n n .sending).trans ((observed_setObserved n n true).trans (if_pos rfl))
  exact .inl ⟨by rw [hstage]; rfl,fun _ => hobserved⟩

theorem currentFits_returnOperation (hnumbered : Numbered s) (hconnecting : s.connecting=.replacing n) :
    CurrentFits {s.addDiscoveryEventSender n with connecting := .idle,operation := .returned n} := by
  intro m hm
  cases hm
  have hstage : ((s.addDiscoveryEventSender n).senders n).stage=.created :=
    (stage_setObserved n n true).trans (hnumbered.connecting n hconnecting)
  have hobserved : ((s.addDiscoveryEventSender n).senders n).observed=true :=
    (observed_setObserved n n true).trans (if_pos rfl)
  exact .inl ⟨by rw [hstage]; rfl,fun _ => hobserved⟩

/-- What decides whether the current sender fits. -/
def currency (s : Delegate) := (s.current,s.isConnected,s.operation,s.senders)

section

variable (h : CurrentFits s)
include h

theorem CurrentFits.congr (hsame : currency t=currency s) : CurrentFits t := by
  simp only [currency,Prod.mk.injEq] at hsame
  unfold CurrentFits
  rw [hsame.1,hsame.2.1,hsame.2.2.1,hsame.2.2.2]
  exact h

variable {stage old : Stage}

theorem CurrentFits.setStage
    (hself : s.current=some n → Fit s.isConnected s.operation n {s.senders n with stage := stage}) :
    CurrentFits (s.setStage n stage) := by
  intro m hm
  rcases eq_or_ne m n with rfl|hne
  · have hsender : (s.setStage m stage).senders m={s.senders m with stage := stage} :=
      Function.update_self ..
    rw [hsender]
    exact hself hm
  · have hsender : (s.setStage n stage).senders m=s.senders m := Function.update_of_ne hne _ _
    rw [hsender]
    exact h m hm

/-- A report begins, or goes on up to the reset of the current sender. -/
theorem CurrentFits.report (hattends : attends stage=true)
    (hcreated : stage≠.created) (hsending : stage≠.sending) : CurrentFits (s.setStage n stage) :=
  h.setStage fun _ => .inl ⟨hattends,fun hstage => absurd hstage (not_or.mpr ⟨hcreated,hsending⟩)⟩

theorem CurrentFits.finish (hold : (s.senders n).stage=old)
    (hattends : attends old=false) (hended : old≠.ended false) (hstage : stage≠.absent) :
    CurrentFits (s.setStage n stage) := by
  refine h.setStage fun hcurrent => ?_
  rcases h n hcurrent with ⟨hfits,_⟩|⟨hconnected,⟨_,hfailed⟩|⟨haborted,_⟩⟩
  · rw [hold,hattends] at hfits
    cases hfits
  · exact absurd (hold.symm.trans hfailed) hended
  · exact .inr ⟨hconnected,.inr ⟨haborted,hstage⟩⟩

theorem currentFits_abort (hnumbered : Numbered s) (hreturned : s.operation=.returned n)
    (hallowed : Allowed s .abortOperation) : CurrentFits {s.abortSender n with operation := .aborted n} := by
  intro m hm
  have hcurrent : s.current=some m := hm
  rcases eq_or_ne m n with rfl|hne
  · refine .inr ⟨hallowed m hreturned hcurrent,.inr ⟨rfl,?_⟩⟩
    intro habsent
    have hstage := (stage_abortSender m m).symm.trans habsent
    split at hstage
    · cases hstage
    · exact hnumbered.known m hreturned hstage
  · have hsender : (s.abortSender n).senders m=s.senders m := Function.update_of_ne hne _ _
    have hfit := h m hcurrent
    rw [hsender]
    rcases hfit with hfits|⟨_,⟨hother,_⟩|⟨hother,_⟩⟩
    · exact .inl hfits
    · rw [hreturned] at hother
      exact absurd (Operation.returned.inj hother).symm hne
    · rw [hreturned] at hother
      cases hother

theorem currentFits_step {event : Event} (hnumbered : Numbered s)
    (hallowed : Allowed s event) (hstep : Step s event t) : CurrentFits t := by
  cases hstep with
  | addOrUpdateEndpoint =>
    unfold addOrUpdateEndpoint
    split
    · exact h
    · exact h.congr rfl
  | deleteEndpoint =>
    unfold deleteEndpoint
    split
    · exact h
    · exact h.congr rfl
  | submitUnlessSending | beginPass | lookForSender | lookForPending | movePending | refusePass | endPass
  | tellUnchanged | invalidateCapabilities | doShutdown => exact h.congr rfl
  | connect rests done unaborted =>
    intro m hm
    rcases h m hm with hfits|⟨_,⟨hreturned,hfailed⟩|⟨haborted,_⟩⟩
    · exact .inl hfits
    · have hended := hfailed.symm.trans (done m hreturned)
      cases hended
    · exact absurd haborted (unaborted m)
  | disconnect =>
    intro m hm
    exact (h m hm).imp id fun hfailed => ⟨rfl,hfailed.2⟩
  | createPassSender =>
    unfold createPassSender
    split
    · exact h.congr rfl
    · exact currentFits_none rfl
  | sendPass => exact currentFits_sendPass _
  | beginOperation | createOperation | resetCompleted | resetFailed | shutdownExecutor => exact currentFits_none rfl
  | prepareOperation =>
    unfold prepareOperation
    split
    · exact h.congr rfl
    · exact h.congr rfl
  | returnOperation at_replacing => exact currentFits_returnOperation hnumbered at_replacing
  | @performOperation n returned fresh =>
    refine h.setStage fun hcurrent => ?_
    rcases h n hcurrent with ⟨_,hobserved⟩|⟨_,⟨_,hfailed⟩|⟨haborted,_⟩⟩
    · exact .inl ⟨rfl,fun _ => hobserved (.inl fresh)⟩
    · cases fresh.symm.trans hfailed
    · cases returned.symm.trans haborted
  | abortOperation returned => exact currentFits_abort h hnumbered returned hallowed
  | retry =>
    unfold notifyRetriable
    split
    · exact currentFits_none rfl
    · exact h.congr rfl
  | fail | complete => exact h.report rfl Stage.noConfusion nofun
  | giveUp =>
    refine h.setStage fun hcurrent => ?_
    obtain ⟨hconnected,hreturned⟩ := hallowed hcurrent
    exact .inr ⟨hconnected,.inl ⟨hreturned,rfl⟩⟩
  | @stop n sends stopped =>
    refine h.setStage fun hcurrent => ?_
    rcases h n hcurrent with ⟨_,hobserved⟩|⟨hconnected,⟨_,hfailed⟩|⟨haborted,_⟩⟩
    · rw [stopped] at hobserved
      cases hobserved (.inr sends)
    · cases sends.symm.trans hfailed
    · exact .inr ⟨hconnected,.inr ⟨haborted,nofun⟩⟩
  | store | erase | register | clearInFlight => exact (h.report rfl Stage.noConfusion Stage.noConfusion).congr rfl
  | storeFails | eraseFails => cases hallowed.1
  | notifyUnsaved at_unsaved => exact (h.finish at_unsaved rfl Stage.noConfusion Stage.noConfusion).congr rfl
  | notifySuccess at_reset => exact (h.finish at_reset rfl Stage.noConfusion Stage.noConfusion).congr rfl
  | submitPass at_notified => exact (h.finish at_notified rfl Stage.noConfusion Stage.noConfusion).congr rfl
  | readInFlight => exact h.report rfl Stage.noConfusion Stage.noConfusion
  | notifyFatal at_dropped => exact (h.finish at_dropped rfl Stage.noConfusion Stage.noConfusion).congr rfl

end

/-- The pending endpoints are seen to. -/
def Attended (s : Delegate) : Prop :=
  s.isShuttingDown=true ∨ s.isConnected=false ∨ NonePending s ∨ Served s ∨ s.current≠none

/-- A pass that is submitted sees to what is pending. -/
theorem attended_of_queue (h : 0<s.queue) : Attended s :=
  .inr (.inr (.inr (.inl (.inl h))))

theorem attended_of_takes (h : takes s.pass=true) : Attended s :=
  .inr (.inr (.inr (.inl (.inr (.inl h)))))

theorem attended_of_checking (h : 0<s.checking) : Attended s :=
  .inr (.inr (.inr (.inl (.inr (.inr (.inl h))))))

theorem attended_of_renews (h : renews s.connecting=true) : Attended s :=
  .inr (.inr (.inr (.inl (.inr (.inr (.inr (.inl h)))))))

/-- A report that ends with a pass sees to what is pending. -/
theorem attended_of_submits (h : submits (s.senders n).stage=true) : Attended s :=
  .inr (.inr (.inr (.inl (.inr (.inr (.inr (.inr ⟨n,h⟩)))))))

theorem attended_of_current (h : s.current=some n) : Attended s :=
  .inr (.inr (.inr (.inr (by rw [h]; exact Option.some_ne_none n))))

theorem attended_of_none (h : NonePending s) : Attended s := .inr (.inr (.inl h))

/-- Whoever sees to the pending endpoints still does. -/
theorem Served.mono (h : Served s) (hqueue : s.queue≤t.queue) (hpass : takes s.pass=true → takes t.pass=true)
    (hchecking : s.checking≤t.checking) (hconnecting : renews s.connecting=true → renews t.connecting=true)
    (hsubmits : ∀ n,submits (s.senders n).stage=true → submits (t.senders n).stage=true) : Served t := by
  rcases h with hq|hp|hc|hr|⟨n,hn⟩
  · exact .inl (Nat.lt_of_lt_of_le hq hqueue)
  · exact .inr (.inl (hpass hp))
  · exact .inr (.inr (.inl (Nat.lt_of_lt_of_le hc hchecking)))
  · exact .inr (.inr (.inr (.inl (hconnecting hr))))
  · exact .inr (.inr (.inr (.inr ⟨n,hsubmits n hn⟩)))

/-- A step that makes nothing pending and takes nobody away. -/
theorem Attended.mono (h : Attended s) (hshutdown : t.isShuttingDown=s.isShuttingDown)
    (hconnected : t.isConnected=s.isConnected) (hadd : t.addOrUpdate.pending=s.addOrUpdate.pending)
    (hdelete : t.delete.pending=s.delete.pending) (hserved : Served s → Served t)
    (hcurrent : t.current=s.current) : Attended t := by
  unfold Attended NonePending
  rw [hshutdown,hconnected,hadd,hdelete,hcurrent]
  exact h.imp id (Or.imp id (Or.imp id (Or.imp hserved id)))

/-- A sender goes on, and submits its pass as before. -/
theorem submits_setStage {old stage : Stage} (hold : (s.senders n).stage=old)
    (hsubmits : submits old=true → submits stage=true) (m : ℕ) (hm : submits (s.senders m).stage=true) :
    submits ((s.setStage n stage).senders m).stage=true := by
  rw [stage_setStage]
  split
  · rename_i heq
    rw [heq,hold] at hm
    exact hsubmits hm
  · exact hm

/-- A sender goes on, and nobody else is concerned. -/
theorem Attended.setStage (h : Attended s) {old stage : Stage} (hold : (s.senders n).stage=old)
    (hsubmits : submits old=true → submits stage=true) : Attended (s.setStage n stage) :=
  h.mono rfl rfl rfl rfl (fun hserved => hserved.mono le_rfl id le_rfl id (submits_setStage hold hsubmits)) rfl

/-- What is pending, and who may see to it. -/
def business (s : Delegate) :=
  (s.isShuttingDown,s.isConnected,s.addOrUpdate.pending,s.delete.pending,s.current,s.queue,s.pass,s.checking,
    s.connecting,s.senders)

theorem Attended.congr (h : Attended s) (hsame : business t=business s) : Attended t := by
  simp only [business,Prod.mk.injEq] at hsame
  obtain ⟨hshutdown,hconnected,hadd,hdelete,hcurrent,hqueue,hpass,hchecking,hconnecting,hsenders⟩ := hsame
  refine h.mono hshutdown hconnected hadd hdelete ?_ hcurrent
  unfold Served
  rw [hqueue,hpass,hchecking,hconnecting,hsenders]
  exact id

theorem attended_refuse (h : Attended s) {addOrUpdate : Endpoints} {delete : Deletions}
    (hpass : s.pass=.moved addOrUpdate delete) (hseen : s.isConnected=false ∨ NoneInFlight s ∨ Served s) :
    Attended {s.moveInFlightEndpointsToPending with pass := .refused} := by
  have hserved : Served s → Served {s.moveInFlightEndpointsToPending with pass := .refused} := by
    intro hs
    refine hs.mono le_rfl ?_ le_rfl id fun _ => id
    rw [hpass]
    exact nofun
  rcases hseen with hconnected|⟨hadd,hdelete⟩|hs
  · exact .inr (.inl hconnected)
  · exact h.mono rfl rfl (moveInFlight_of_none hadd) (moveInFlight_of_none hdelete) hserved rfl
  · exact .inr (.inr (.inr (.inl (hserved hs))))

/-- It takes what is pending, or cannot load the storage. -/
theorem attended_prepareOperation (loaded : Bool)
    (hseen : loaded=false → s.isConnected=false ∨ (NonePending s ∧ NoneInFlight s)) :
    Attended (s.prepareOperation loaded) := by
  cases loaded with
  | true => exact attended_of_none ⟨rfl,rfl⟩
  | false =>
    rcases hseen rfl with hconnected|⟨⟨hadd,hdelete⟩,hnoAdd,hnoDelete⟩
    · exact .inr (.inl hconnected)
    · refine attended_of_none ⟨?_,?_⟩
      · exact (congrArg AList.entries (moveInFlight_of_none hnoAdd)).trans hadd
      · exact (congrArg AList.entries (moveInFlight_of_none hnoDelete)).trans hdelete

theorem attended_resetFailed {status : FatalStatus} {addOrUpdate delete : List Report}
    (hstage : (s.senders n).stage=.cleared status addOrUpdate delete)
    (hseen : s.isConnected=false ∨ NonePending s ∨ Served s) :
    Attended (s.resetDiscoveryEventSender.setStage n (.dropped status addOrUpdate delete)) := by
  rcases hseen with hconnected|hnone|hserved
  · exact .inr (.inl hconnected)
  · exact attended_of_none hnone
  · refine .inr (.inr (.inr (.inl (hserved.mono le_rfl id le_rfl id ?_))))
    intro m hm
    refine submits_setStage ((stage_reset n).trans hstage) Bool.noConfusion m ?_
    rw [stage_reset]
    exact hm

/-- Every step that is allowed leaves the pending endpoints to somebody. -/
theorem attended_step {event : Event} (h : Attended s) (hallowed : Allowed s event) (hstep : Step s event t) :
    Attended t := by
  cases hstep with
  | addOrUpdateEndpoint =>
    unfold addOrUpdateEndpoint
    split
    · exact h
    · exact attended_of_checking (Nat.succ_pos _)
  | deleteEndpoint =>
    unfold deleteEndpoint
    split
    · exact h
    · exact attended_of_checking (Nat.succ_pos _)
  | submitUnlessSending =>
    cases hcurrent : s.current with
    | none =>
      refine attended_of_queue ?_
      unfold submitUnlessSending
      rw [if_pos hcurrent]
      exact Nat.succ_pos _
    | some n => exact attended_of_current (n := n) hcurrent
  | connect | submitPass => exact attended_of_queue (Nat.succ_pos _)
  | disconnect => exact .inr (.inl rfl)
  | beginPass =>
    by_cases hgoes : s.isShuttingDown=false ∧ s.isConnected=true
    · refine attended_of_takes ?_
      unfold beginPass
      rw [if_pos hgoes]
      rfl
    · rcases not_and_or.mp hgoes with hshutdown|hconnected
      · exact .inl ((Bool.not_eq_false _).mp hshutdown)
      · exact .inr (.inl ((Bool.not_eq_true _).mp hconnected))
  | lookForSender =>
    cases hcurrent : s.current with
    | none =>
      refine attended_of_takes ?_
      unfold lookForSender
      rw [if_pos hcurrent]
      rfl
    | some n => exact attended_of_current (n := n) hcurrent
  | lookForPending =>
    by_cases hnone : NonePending s
    · exact attended_of_none hnone
    · refine attended_of_takes ?_
      unfold NonePending at hnone
      unfold lookForPending
      rw [if_neg hnone]
      rfl
  | movePending => exact attended_of_none ⟨rfl,rfl⟩
  | @createPassSender addOrUpdate delete at_moved =>
    unfold createPassSender
    split
    · rename_i hempty
      exact attended_refuse h at_moved (hallowed addOrUpdate delete at_moved hempty)
    · exact attended_of_takes rfl
  | refusePass at_refused =>
    refine h.mono rfl rfl rfl rfl (fun hs => hs.mono le_rfl ?_ le_rfl id fun _ => id) rfl
    rw [at_refused]
    exact Bool.noConfusion
  | sendPass | returnOperation => exact attended_of_current rfl
  | endPass at_sending =>
    refine h.mono rfl rfl rfl rfl (fun hs => hs.mono le_rfl ?_ le_rfl id fun _ => id) rfl
    rw [at_sending]
    exact Bool.noConfusion
  | beginOperation | createOperation => exact attended_of_renews rfl
  | prepareOperation at_begun loaded => exact attended_prepareOperation loaded (hallowed at_begun)
  | tellUnchanged at_prepared =>
    refine h.mono rfl rfl rfl rfl (fun hs => hs.mono le_rfl id le_rfl ?_ fun _ => id) rfl
    rw [at_prepared]
    exact Bool.noConfusion
  | performOperation returned fresh => exact h.setStage fresh Bool.noConfusion
  | @abortOperation n returned =>
    refine h.mono rfl rfl rfl rfl (fun hs => hs.mono le_rfl id le_rfl id ?_) rfl
    intro m hm
    change submits ((s.abortSender n).senders m).stage=true
    rw [stage_abortSender]
    split
    · rename_i hself
      rw [hself.1,hself.2] at hm
      cases hm
    · exact hm
  | retry sends observed serverError =>
    unfold notifyRetriable
    split
    · rename_i hshutdown
      exact .inl hshutdown
    · exact h.congr rfl
  | fail sends | complete sends | giveUp sends | stop sends => exact h.setStage sends Bool.noConfusion
  | store at_completed => exact (h.setStage at_completed fun _ => rfl).congr rfl
  | storeFails | eraseFails => cases hallowed.1
  | erase at_stored => exact (h.setStage at_stored fun _ => rfl).congr rfl
  | notifyUnsaved at_unsaved => exact (h.setStage at_unsaved Bool.noConfusion).congr rfl
  | register at_erased => exact (h.setStage at_erased fun _ => rfl).congr rfl
  | @resetCompleted n =>
    refine attended_of_submits (n := n) ?_
    rw [stage_setStage,if_pos rfl]
    rfl
  | notifySuccess at_reset => exact (h.setStage at_reset fun _ => rfl).congr rfl
  | readInFlight at_failed => exact h.setStage at_failed Bool.noConfusion
  | clearInFlight at_read => exact (h.setStage at_read Bool.noConfusion).congr rfl
  | resetFailed at_cleared => exact attended_resetFailed at_cleared (hallowed.2 _ _ _ at_cleared)
  | notifyFatal at_dropped => exact (h.setStage at_dropped Bool.noConfusion).congr rfl
  | invalidateCapabilities => exact h.congr rfl
  | doShutdown => exact .inl rfl
  | shutdownExecutor begun => exact .inl begun

/-- What holds between two steps. -/
structure Inv (s : Delegate) : Prop where
  numbered : Numbered s
  current : CurrentFits s
  attended : Attended s

theorem inv_create (storage : Configs) : Inv (create storage) :=
  ⟨numbered_create storage,currentFits_none rfl,attended_of_none ⟨rfl,rfl⟩⟩

theorem inv_step {event : Event} (h : Inv s) (hstep : Guarded Step Allowed s event t) : Inv t :=
  ⟨numbered_step h.numbered hstep.2,currentFits_step h.current h.numbered hstep.1 hstep.2,
    attended_step h.attended hstep.1 hstep.2⟩

theorem sends_of_current (h : CurrentFits s) (hconnected : s.isConnected=true) (hcurrent : s.current=some n) :
    sends (s.senders n)=true := by
  rcases h n hcurrent with ⟨hattends,hobserved⟩|⟨hdisconnected,_⟩
  · unfold sends
    split
    · rename_i hstage
      rw [hstage] at hattends
      cases hattends
    · rename_i hstage
      rw [hstage] at hattends
      cases hattends
    · rename_i hstage
      exact hobserved (.inl hstage)
    · rfl
  · rw [hconnected] at hdisconnected
    cases hdisconnected

/-- A sender whose report ends with a pass is not done. -/
theorem sends_of_submits {sender : Sender} (h : submits sender.stage=true) : sends sender=true := by
  unfold sends
  split
  · rename_i hstage
    rw [hstage] at h
    cases h
  · rename_i hstage
    rw [hstage] at h
    cases h
  · rename_i hstage
    rw [hstage] at h
    cases h
  · rfl

/-- In every run whose steps are allowed, nothing is pending once there is a connection
and nothing is left to do. -/
theorem no_stranded_endpoints {storage : Configs} {events : List Event}
    (run : Run (Guarded Step Allowed) (create storage) events s) (rests : Rests s) : NonePending s := by
  have hinv : Inv s := run.invariant Inv (inv_create storage) fun _ _ _ => inv_step
  rcases hinv.attended with hshutdown|hdisconnected|hnone|hserved|hcurrent
  · rw [rests.running] at hshutdown
    cases hshutdown
  · rw [rests.connected] at hdisconnected
    cases hdisconnected
  · exact hnone
  · rcases hserved with hqueue|hpass|hchecking|hconnecting|⟨n,hn⟩
    · rw [rests.queue] at hqueue
      cases hqueue
    · rw [rests.pass] at hpass
      cases hpass
    · rw [rests.checking] at hchecking
      cases hchecking
    · rw [rests.connecting] at hconnecting
      cases hconnecting
    · have hsends := sends_of_submits hn
      rw [rests.senders n] at hsends
      cases hsends
  · obtain ⟨n,hn⟩ := Option.ne_none_iff_exists'.mp hcurrent
    have hsends := sends_of_current hinv.current rests.connected hn
    rw [rests.senders n] at hsends
    cases hsends

/-- A request that is sent and accepted leaves nothing to do. -/
theorem no_stranded_endpoints_lamp : ∃ events s,Run (Guarded Step Allowed) (create ∅) events s ∧ Rests s ∧
      s.endpoints.lookup "lamp" = some "on/off" ∧ NonePending s := by
  have run := (@Run.refl _ _ (Guarded Step Allowed) (create ∅)).allow (.beginOperation rfl true)
    nofun
  have run := run.allow (.prepareOperation rfl true) nofun
  have run := run.allow (.tellUnchanged rfl true) nofun
  have run := run.allow (.connect rfl nofun nofun) trivial
  have run := run.allow (.beginPass rfl (by decide)) nofun
  have run := run.allow (.lookForSender rfl) nofun
  have run := run.allow (.lookForPending rfl) nofun
  have run := run.allow (.addOrUpdateEndpoint true "lamp" "on/off") trivial
  have run := run.allow (.submitUnlessSending (by decide)) trivial
  have run := run.allow (.beginPass rfl (by decide)) nofun
  have run := run.allow (.lookForSender rfl) nofun
  have run := run.allow (.lookForPending rfl) nofun
  have run := run.allow (.movePending rfl) nofun
  have run := run.allow (.createPassSender rfl) (by
    intro addOrUpdate delete hpass hempty
    cases hpass
    cases hempty.1)
  have run := run.allow (@Step.sendPass _ 0 rfl) nofun
  have run := run.allow (@Step.complete _ 0 rfl rfl) trivial
  have run := run.allow (@Step.store _ 0 rfl) ⟨rfl,nofun⟩
  have run := run.allow (@Step.erase _ 0 rfl) ⟨rfl,nofun⟩
  have run := run.allow (@Step.register _ 0 rfl) ⟨rfl,nofun⟩
  have run := run.allow (@Step.resetCompleted _ 0 rfl) ⟨rfl,nofun⟩
  have run := run.allow (@Step.notifySuccess _ 0 rfl) ⟨rfl,nofun⟩
  have run := run.allow (@Step.submitPass _ 0 rfl) ⟨rfl,nofun⟩
  have run := run.allow (@Step.endPass _ 0 true rfl rfl) nofun
  have run := run.allow (.beginPass rfl (by decide)) nofun
  have run := run.allow (.lookForSender rfl) nofun
  have run := run.allow (.lookForPending rfl) nofun
  refine ⟨_,_,run,?rests,by decide,no_stranded_endpoints run ?rests⟩
  refine ⟨rfl,rfl,rfl,rfl,rfl,rfl,?_⟩
  intro n
  cases n with
  | zero => rfl
  | succ => rfl

/-- A request made meanwhile for its endpoint is stranded. -/
theorem refused_event_strands_endpoint :
    ¬∀ storage events s,Run Step (create storage) events s → Rests s → NonePending s := by
  intro hall
  have run := (@Run.refl _ _ Step (create ∅)).snoc (.beginOperation rfl true)
  have run := run.snoc (.prepareOperation rfl true)
  have run := run.snoc (.tellUnchanged rfl true)
  have run := run.snoc (.connect rfl nofun nofun)
  have run := run.snoc (.beginPass rfl (by decide))
  have run := run.snoc (.lookForSender rfl)
  have run := run.snoc (.lookForPending rfl)
  have run := run.snoc (.addOrUpdateEndpoint true "lamp" "on/off")
  have run := run.snoc (.submitUnlessSending (by decide))
  have run := run.snoc (.beginPass rfl (by decide))
  have run := run.snoc (.lookForSender rfl)
  have run := run.snoc (.lookForPending rfl)
  have run := run.snoc (.movePending rfl)
  have run := run.snoc (.createPassSender rfl)
  have run := run.snoc (@Step.sendPass _ 0 rfl)
  -- The second request finds the sender of the first and submits no pass.
  have run := run.snoc (.addOrUpdateEndpoint true "plug" "on/off")
  have run := run.snoc (.submitUnlessSending (by decide))
  have run := run.snoc (@Step.fail _ 0 rfl rfl .BAD_REQUEST)
  have run := run.snoc (@Step.readInFlight _ 0 _ rfl)
  have run := run.snoc (@Step.clearInFlight _ 0 _ _ _ rfl)
  have run := run.snoc (@Step.resetFailed _ 0 _ _ _ rfl)
  have run := run.snoc (@Step.notifyFatal _ 0 _ _ _ rfl)
  have run := run.snoc (@Step.endPass _ 0 false rfl rfl)
  have hnone := hall _ _ _ run ⟨rfl,rfl,rfl,rfl,rfl,rfl,fun n => by
    cases n with
    | zero => rfl
    | succ => rfl⟩
  cases hnone.1

end AlexaClientSDK.EndpointPasses
