import AlexaClientSDK.CapabilitiesDelegate

/-!
# The senders of the delegate

What the operations on senders leave of each of them, and the numbers of the senders: a
sender that a thread is about to make the current one is known to no other thread.
-/

namespace AlexaClientSDK.EndpointSenders

open Function CapabilitiesDelegate Delegate

variable {s t : Delegate}

/-- Nothing waits to be sent. -/
def NonePending (s : Delegate) : Prop := s.addOrUpdate.pending.entries=[] ∧ s.delete.pending.entries=[]

/-- Nothing is being sent. -/
def NoneInFlight (s : Delegate) : Prop :=
  s.addOrUpdate.inFlight.entries=[] ∧ s.delete.inFlight.entries=[]

/-- What a sender was created with. -/
def Given (s : Delegate) (n : ℕ) : Endpoints × Deletions := ((s.senders n).addOrUpdate,(s.senders n).delete)

section

variable (m : ℕ)

/-- The current sender is not observed any more. -/
theorem senders_reset : s.resetDiscoveryEventSender.senders m =
      if s.current=some m then {s.senders m with observed := false} else s.senders m := by
  unfold resetDiscoveryEventSender
  cases hcurrent : s.current with
  | none => rw [if_neg (Option.some_ne_none m).symm]
  | some n =>
    dsimp only
    rw [update_apply]
    rcases eq_or_ne m n with rfl|hne
    · rw [if_pos rfl,if_pos rfl]
    · rw [if_neg hne,if_neg fun heq => hne (Option.some.inj heq).symm]

theorem stage_reset : (s.resetDiscoveryEventSender.senders m).stage=(s.senders m).stage := by
  rw [senders_reset]
  split
  · rfl
  · rfl

theorem observed_reset : (s.resetDiscoveryEventSender.senders m).observed =
      if s.current=some m then false else (s.senders m).observed := by
  rw [senders_reset]
  split
  · rfl
  · rfl

theorem given_reset : Given s.resetDiscoveryEventSender m=Given s m := by
  unfold Given
  rw [senders_reset]
  split
  · rfl
  · rfl

section

variable (addOrUpdate : Endpoints)

/-- The new sender is created, and the others go on. -/
theorem stage_createSender (delete : Deletions) : ((s.createSender addOrUpdate delete).senders m).stage =
      if m=s.created then .created else (s.senders m).stage := by
  unfold createSender
  dsimp only
  rw [update_apply]
  split
  · rename_i hm
    exact (if_pos hm).symm
  · rename_i hm
    exact (stage_reset m).trans (if_neg hm).symm

/-- The sender that was current is not observed any more. -/
theorem observed_createSender (delete : Deletions) : ((s.createSender addOrUpdate delete).senders m).observed =
      if m=s.created ∨ s.current=some m then false else (s.senders m).observed := by
  unfold createSender
  dsimp only
  rw [update_apply]
  split
  · rename_i hm
    exact (if_pos (.inl hm)).symm
  · rename_i hm
    refine (observed_reset m).trans ?_
    have hiff : (m=s.created ∨ s.current=some m) ↔ s.current=some m :=
      ⟨fun h => h.resolve_left hm,.inr⟩
    simp only [hiff]

theorem given_createSender (delete : Deletions) : Given (s.createSender addOrUpdate delete) m =
      if m=s.created then (addOrUpdate,delete) else Given s m := by
  unfold createSender
  unfold Given
  dsimp only
  rw [update_apply]
  split
  · rename_i hm
    exact (if_pos hm).symm
  · rename_i hm
    exact (given_reset m).trans (if_neg hm).symm

end

end

section

variable (n m : ℕ)

theorem stage_setStage (stage : Stage) :
    ((s.setStage n stage).senders m).stage=if m=n then stage else (s.senders m).stage := by
  unfold setStage
  dsimp only
  rw [update_apply]
  split
  · rfl
  · rfl

theorem observed_setStage (stage : Stage) : ((s.setStage n stage).senders m).observed=(s.senders m).observed := by
  unfold setStage
  dsimp only
  rw [update_apply]
  split
  · rename_i hm
    rw [hm]
  · rfl

theorem given_setStage (stage : Stage) : Given (s.setStage n stage) m=Given s m := by
  unfold Given setStage
  dsimp only
  rw [update_apply]
  split
  · rename_i hm
    rw [hm]
  · rfl

theorem stage_setObserved (observed : Bool) : ((s.setObserved n observed).senders m).stage=(s.senders m).stage := by
  unfold setObserved
  dsimp only
  rw [update_apply]
  split
  · rename_i hm
    rw [hm]
  · rfl

theorem observed_setObserved (observed : Bool) :
    ((s.setObserved n observed).senders m).observed=if m=n then observed else (s.senders m).observed := by
  unfold setObserved
  dsimp only
  rw [update_apply]
  split
  · rfl
  · rfl

theorem given_setObserved (observed : Bool) : Given (s.setObserved n observed) m=Given s m := by
  unfold Given setObserved
  dsimp only
  rw [update_apply]
  split
  · rename_i hm
    rw [hm]
  · rfl

/-- A sender that has not sent yet ends. -/
theorem stage_abortSender : ((s.abortSender n).senders m).stage =
      if m=n ∧ (s.senders n).stage=.created then .ended false else (s.senders m).stage := by
  unfold abortSender
  dsimp only
  rw [update_apply]
  split
  · rename_i hm
    subst hm
    simp only [true_and]
  · rename_i hm
    exact (if_neg fun h => hm h.1).symm

theorem observed_abortSender :
    ((s.abortSender n).senders m).observed=if m=n then false else (s.senders m).observed := by
  unfold abortSender
  dsimp only
  rw [update_apply]
  split
  · rfl
  · rfl

theorem given_abortSender : Given (s.abortSender n) m=Given s m := by
  unfold Given abortSender
  dsimp only
  rw [update_apply]
  split
  · rename_i hm
    rw [hm]
  · rfl

end

/-- The sender is past its creation. -/
def told : Stage → Bool
  | .absent | .created => false
  | _ => true

/-- Which sender a thread may still make the current one, and which it may not. -/
structure Numbered (s : Delegate) : Prop where
  absent : ∀ n,s.created≤n → (s.senders n).stage=.absent
  /-- The sender of a pass that is about to be made the current one. -/
  pass : ∀ n,s.pass=.replacing n → (s.senders n).stage=.created
  /-- The sender of a post-connect operation that is about to be. -/
  connecting : ∀ n,s.connecting=.replacing n → (s.senders n).stage=.created
  apart : ∀ n,s.pass=.replacing n → s.connecting≠.replacing n ∧ s.operation≠.returned n
  unreturned : s.connecting≠.idle → s.operation=.none
  known : ∀ n,s.operation=.returned n → (s.senders n).stage≠.absent

section

variable (h : Numbered s)
include h

variable {n : ℕ}

namespace Numbered

/-- A sender that exists has a number that was given. -/
theorem lt (hstage : (s.senders n).stage≠.absent) : n<s.created := by
  by_contra hle
  exact hstage (h.absent n (Nat.le_of_not_lt hle))

theorem ne_created (hstage : (s.senders n).stage≠.absent) : n≠s.created :=
  Nat.ne_of_lt (h.lt hstage)

theorem not_connecting (hreturned : s.operation=.returned n) (m : ℕ) : s.connecting≠.replacing m := by
  intro hconnecting
  have hnone := h.unreturned (by rw [hconnecting]; exact nofun)
  rw [hreturned] at hnone
  cases hnone

/-- A step after which the senders are as far as before, or were told to send. -/
theorem advance (hcreated : t.created=s.created) (hpass : t.pass=s.pass)
    (hconnecting : t.connecting=s.connecting) (hoperation : t.operation=s.operation)
    (hstage : ∀ n,(t.senders n).stage=(s.senders n).stage ∨
      (told (s.senders n).stage=true ∧ told (t.senders n).stage=true)) : Numbered t := by
  have hkeep : ∀ n,told (s.senders n).stage=false → (t.senders n).stage=(s.senders n).stage := by
    intro n hn
    rcases hstage n with heq|⟨htold,_⟩
    · exact heq
    · rw [hn] at htold
      cases htold
  constructor
  · intro n hn
    have habsent := h.absent n (hcreated ▸ hn)
    rw [hkeep n (by rw [habsent]; rfl)]
    exact habsent
  · intro n hn
    have hmade := h.pass n (hpass ▸ hn)
    rw [hkeep n (by rw [hmade]; rfl)]
    exact hmade
  · intro n hn
    have hmade := h.connecting n (hconnecting ▸ hn)
    rw [hkeep n (by rw [hmade]; rfl)]
    exact hmade
  · rw [hpass,hconnecting,hoperation]
    exact h.apart
  · rw [hconnecting,hoperation]
    exact h.unreturned
  · intro n hn
    have hknown := h.known n (hoperation ▸ hn)
    rcases hstage n with heq|⟨_,htold⟩
    · rw [heq]
      exact hknown
    · intro habsent
      rw [habsent] at htold
      cases htold

theorem setStage {old stage : Stage} (hold : (s.senders n).stage=old)
    (htold : told old=true) (hnew : told stage=true) : Numbered (s.setStage n stage) := by
  refine h.advance rfl rfl rfl rfl ?_
  intro m
  rw [stage_setStage]
  split
  · rename_i hm
    rw [hm,hold]
    exact .inr ⟨htold,hnew⟩
  · exact .inl rfl

theorem congr (hcreated : t.created=s.created) (hpass : t.pass=s.pass)
    (hconnecting : t.connecting=s.connecting) (hoperation : t.operation=s.operation)
    (hstage : ∀ n,(t.senders n).stage=(s.senders n).stage) : Numbered t :=
  h.advance hcreated hpass hconnecting hoperation fun n => .inl (hstage n)

theorem reset : Numbered s.resetDiscoveryEventSender :=
  h.congr rfl rfl rfl rfl stage_reset

/-- The pass goes on, and has no sender to make the current one. -/
theorem passTo {pass : Pass} (hpass : ∀ n,pass≠.replacing n) : Numbered {s with pass := pass} :=
  ⟨h.absent,fun n hn => absurd hn (hpass n),h.connecting,fun n hn => absurd hn (hpass n),h.unreturned,h.known⟩

/-- It has no sender to make the current one. -/
theorem connectTo {connecting : Connecting} (hmade : s.connecting≠.idle)
    (hconnecting : ∀ n,connecting≠.replacing n) : Numbered {s with connecting := connecting} :=
  ⟨h.absent,h.pass,fun n hn => absurd hn (hconnecting n),fun n hn => ⟨hconnecting n,(h.apart n hn).2⟩,
    fun _ => h.unreturned hmade,h.known⟩

end Numbered

section

variable (addOrUpdate : Endpoints)

/-- The new sender gets the next number. -/
theorem Numbered.createSender (delete : Deletions) : Numbered (s.createSender addOrUpdate delete) := by
  have hold : ∀ n,(s.senders n).stage≠.absent →
      ((s.createSender addOrUpdate delete).senders n).stage=(s.senders n).stage := by
    intro n hn
    rw [stage_createSender,if_neg (h.ne_created hn)]
  constructor
  · intro n hn
    have hlt : s.created<n := hn
    rw [stage_createSender,if_neg (Nat.ne_of_gt hlt)]
    exact h.absent n (Nat.le_of_lt hlt)
  · intro n hn
    have hmade := h.pass n hn
    rw [hold n (by rw [hmade]; exact nofun)]
    exact hmade
  · intro n hn
    have hmade := h.connecting n hn
    rw [hold n (by rw [hmade]; exact nofun)]
    exact hmade
  · exact h.apart
  · exact h.unreturned
  · intro n hn
    have hknown := h.known n hn
    rw [hold n hknown]
    exact hknown

theorem numbered_createPassSender (delete : Deletions) :
    Numbered {s.createSender addOrUpdate delete with pass := .replacing s.created} := by
  have hnew := h.createSender addOrUpdate delete
  have hfresh := h.absent s.created le_rfl
  refine ⟨hnew.absent,?_,hnew.connecting,?_,hnew.unreturned,hnew.known⟩
  · intro n hn
    cases hn
    exact (stage_createSender s.created addOrUpdate delete).trans (if_pos rfl)
  · intro n hn
    cases hn
    constructor
    · intro hconnecting
      have hmade := h.connecting s.created hconnecting
      rw [hfresh] at hmade
      cases hmade
    · intro hreturned
      exact h.known s.created hreturned hfresh

theorem numbered_createOperation (delete : Deletions) (hmade : s.connecting≠.idle) :
    Numbered {s.createSender addOrUpdate delete with connecting := .replacing s.created} := by
  have hnew := h.createSender addOrUpdate delete
  have hfresh := h.absent s.created le_rfl
  refine ⟨hnew.absent,hnew.pass,?_,?_,fun _ => h.unreturned hmade,hnew.known⟩
  · intro n hn
    cases hn
    exact (stage_createSender s.created addOrUpdate delete).trans (if_pos rfl)
  · intro n hn
    refine ⟨?_,(h.apart n hn).2⟩
    intro hconnecting
    cases hconnecting
    have hpass := h.pass s.created hn
    rw [hfresh] at hpass
    cases hpass

end

theorem numbered_sendPass (hpass : s.pass=.replacing n) : Numbered (s.sendPass n) := by
  have hstage : ∀ m,((s.sendPass n).senders m).stage=if m=n then .sending else (s.senders m).stage := by
    intro m
    unfold sendPass
    rw [stage_setStage]
    unfold addDiscoveryEventSender
    rw [stage_setObserved]
  have hmade := h.pass n hpass
  constructor
  · intro m hm
    have habsent := h.absent m hm
    have hne : m≠n := by
      rintro rfl
      rw [hmade] at habsent
      cases habsent
    rw [hstage,if_neg hne]
    exact habsent
  · exact nofun
  · intro m hm
    have hne : m≠n := by
      rintro rfl
      exact (h.apart m hpass).1 hm
    rw [hstage,if_neg hne]
    exact h.connecting m hm
  · exact nofun
  · exact h.unreturned
  · intro m hm
    rw [hstage]
    split
    · exact nofun
    · exact h.known m hm

theorem numbered_returnOperation (hconnecting : s.connecting=.replacing n) :
    Numbered {s.addDiscoveryEventSender n with connecting := .idle,operation := .returned n} := by
  have hstage : ∀ m,((s.addDiscoveryEventSender n).senders m).stage=(s.senders m).stage :=
    fun m => stage_setObserved n m true
  constructor
  · intro m hm
    exact (hstage m).trans (h.absent m hm)
  · intro m hm
    exact (hstage m).trans (h.pass m hm)
  · exact nofun
  · intro m hm
    refine ⟨nofun,?_⟩
    intro hreturned
    cases hreturned
    exact (h.apart n hm).1 hconnecting
  · intro hmade
    exact absurd rfl hmade
  · intro m hm
    cases hm
    have hmade : ((s.addDiscoveryEventSender n).senders n).stage=.created :=
      (hstage n).trans (h.connecting n hconnecting)
    exact fun habsent => Stage.noConfusion (hmade.symm.trans habsent)

/-- The sender of the operation is told to send, or will not be. -/
theorem numbered_operation (hreturned : s.operation=.returned n)
    (hcreated : t.created=s.created) (hpass : t.pass=s.pass) (hconnecting : t.connecting=s.connecting)
    (hoperation : t.operation=.returned n ∨ t.operation=.aborted n)
    (hother : ∀ m,m≠n → (t.senders m).stage=(s.senders m).stage)
    (hself : (t.senders n).stage≠.absent) : Numbered t := by
  constructor
  · intro m hm
    have habsent := h.absent m (hcreated ▸ hm)
    have hne : m≠n := by
      rintro rfl
      exact h.known m hreturned habsent
    rw [hother m hne]
    exact habsent
  · intro m hm
    rw [hpass] at hm
    have hne : m≠n := by
      rintro rfl
      exact (h.apart m hm).2 hreturned
    rw [hother m hne]
    exact h.pass m hm
  · intro m hm
    exact absurd (hconnecting ▸ hm) (h.not_connecting hreturned m)
  · intro m hm
    rw [hpass] at hm
    refine ⟨fun hm' => h.not_connecting hreturned m (hconnecting ▸ hm'),?_⟩
    intro hm'
    rcases hoperation with hop|hop
    · rw [hop] at hm'
      cases hm'
      exact (h.apart n hm).2 hreturned
    · rw [hop] at hm'
      cases hm'
  · intro hmade
    have hnone := h.unreturned (hconnecting ▸ hmade)
    rw [hreturned] at hnone
    cases hnone
  · intro m hm
    rcases hoperation with hop|hop
    · rw [hop] at hm
      cases hm
      exact hself
    · rw [hop] at hm
      cases hm

/-- The numbers stay right in every step. -/
theorem numbered_step {event : Event} (hstep : Step s event t) : Numbered t := by
  cases hstep with
  | addOrUpdateEndpoint =>
    unfold addOrUpdateEndpoint
    split
    · exact h
    · exact h.congr rfl rfl rfl rfl fun _ => rfl
  | deleteEndpoint =>
    unfold deleteEndpoint
    split
    · exact h
    · exact h.congr rfl rfl rfl rfl fun _ => rfl
  | submitUnlessSending | connect | disconnect | invalidateCapabilities | doShutdown =>
    exact h.congr rfl rfl rfl rfl fun _ => rfl
  | beginPass =>
    refine (h.passTo fun n => ?_).congr rfl rfl rfl rfl fun _ => rfl
    unfold beginPass
    split
    · exact nofun
    · exact nofun
  | lookForSender | lookForPending =>
    refine h.passTo fun n => ?_
    split
    · exact nofun
    · exact nofun
  | movePending | refusePass => exact (h.passTo fun n => Pass.noConfusion).congr rfl rfl rfl rfl fun _ => rfl
  | createPassSender =>
    unfold createPassSender
    split
    · exact (h.passTo fun n => Pass.noConfusion).congr rfl rfl rfl rfl fun _ => rfl
    · exact numbered_createPassSender h _ _
  | sendPass at_replacing => exact numbered_sendPass h at_replacing
  | endPass => exact h.passTo fun n => Pass.noConfusion
  | beginOperation =>
    have hreset := h.reset
    refine ⟨hreset.absent,hreset.pass,fun n hn => Connecting.noConfusion hn,?_,fun _ => rfl,
      fun n hn => Operation.noConfusion hn⟩
    intro n _
    exact ⟨Connecting.noConfusion,Operation.noConfusion⟩
  | prepareOperation at_begun =>
    have hmade : s.connecting≠.idle := by
      rw [at_begun]
      exact Connecting.noConfusion
    unfold prepareOperation
    split
    · exact (h.connectTo hmade fun n => Connecting.noConfusion).congr rfl rfl rfl rfl fun _ => rfl
    · exact (h.connectTo hmade fun n => Connecting.noConfusion).congr rfl rfl rfl rfl fun _ => rfl
  | tellUnchanged at_prepared =>
    have hmade : s.connecting≠.idle := by
      rw [at_prepared]
      exact Connecting.noConfusion
    refine (h.connectTo hmade fun n => ?_).congr rfl rfl rfl rfl fun _ => rfl
    unfold tellUnchanged
    split
    · exact Connecting.noConfusion
    · exact Connecting.noConfusion
  | createOperation at_told =>
    exact numbered_createOperation h _ _ (by rw [at_told]; exact Connecting.noConfusion)
  | returnOperation at_replacing => exact numbered_returnOperation h at_replacing
  | @performOperation n returned =>
    refine numbered_operation h returned rfl rfl rfl (.inl returned) ?_ ?_
    · intro m hm
      rw [stage_setStage,if_neg hm]
    · rw [stage_setStage,if_pos rfl]
      exact Stage.noConfusion
  | @abortOperation n returned =>
    refine numbered_operation h returned rfl rfl rfl (.inr rfl) ?_ ?_
    · intro m hm
      exact (stage_abortSender n m).trans (if_neg fun hn => hm hn.1)
    · intro habsent
      have hstage := (stage_abortSender n n).symm.trans habsent
      split at hstage
      · cases hstage
      · exact h.known n returned hstage
  | retry =>
    unfold notifyRetriable
    split
    · exact h.reset.congr rfl rfl rfl rfl fun _ => rfl
    · exact h.congr rfl rfl rfl rfl fun _ => rfl
  | fail sends | complete sends | giveUp sends | stop sends => exact h.setStage sends rfl rfl
  | store at_completed | storeFails at_completed => exact (h.setStage at_completed rfl rfl).congr rfl rfl rfl rfl fun _ => rfl
  | erase at_stored | eraseFails at_stored => exact (h.setStage at_stored rfl rfl).congr rfl rfl rfl rfl fun _ => rfl
  | notifyUnsaved at_unsaved => exact (h.setStage at_unsaved rfl rfl).congr rfl rfl rfl rfl fun _ => rfl
  | register at_erased => exact (h.setStage at_erased rfl rfl).congr rfl rfl rfl rfl fun _ => rfl
  | resetCompleted at_moved => exact h.reset.setStage ((stage_reset _).trans at_moved) rfl rfl
  | notifySuccess at_reset => exact (h.setStage at_reset rfl rfl).congr rfl rfl rfl rfl fun _ => rfl
  | submitPass at_notified => exact (h.setStage at_notified rfl rfl).congr rfl rfl rfl rfl fun _ => rfl
  | readInFlight at_failed => exact h.setStage at_failed rfl rfl
  | clearInFlight at_read => exact (h.setStage at_read rfl rfl).congr rfl rfl rfl rfl fun _ => rfl
  | resetFailed at_cleared => exact h.reset.setStage ((stage_reset _).trans at_cleared) rfl rfl
  | notifyFatal at_dropped => exact (h.setStage at_dropped rfl rfl).congr rfl rfl rfl rfl fun _ => rfl
  | shutdownExecutor => exact h.reset.congr rfl rfl rfl rfl fun _ => rfl

end

theorem numbered_create (storage : Configs) : Numbered (create storage) :=
  ⟨fun _ _ => rfl,nofun,nofun,
    nofun,fun h => absurd rfl h,nofun⟩

end AlexaClientSDK.EndpointSenders
