import AlexaClientSDK.EndpointSenders

/-!
# Who carries the endpoints in flight

The in-flight maps belong to the pass that has moved them, the post-connect operation made from them, or the sender that
still reports. They stay equal to what that one has copied, provided that a pass moves its endpoints only when nothing
is in flight, and that an operation puts endpoints back only when nobody carries them.
-/

namespace AlexaClientSDK.EndpointFlights

open CapabilitiesDelegate Delegate EndpointSenders

variable {s t : Delegate} {n : ℕ} {g : Endpoints × Deletions}

def InFlight (s : Delegate) : Endpoints × Deletions := (s.addOrUpdate.inFlight,s.delete.inFlight)

def Filled (g : Endpoints × Deletions) : Prop := ¬(g.1.entries=[] ∧ g.2.entries=[])

/-- The sender is still going to report, or its report uses what is in flight. -/
def engaged (sender : Sender) : Bool :=
  match sender.stage with
  | .created | .sending => sender.observed
  | .completed | .stored | .erased | .failed _ | .read _ _ _ => true
  | _ => false

/-- The threads that may carry what is in flight. -/
inductive Owner
  | sender (n : ℕ)
  /-- A pass that has moved the endpoints and has no sender yet. -/
  | moving
  /-- A pass that is about to make its sender the current one. -/
  | passing
  | connecting

/-- A thread carries a copy of what is in flight. -/
inductive Carries (s : Delegate) : Owner → Endpoints × Deletions → Prop
  | sender {n : ℕ} (engages : engaged (s.senders n)=true) : Carries s (.sender n) (Given s n)
  | moving {addOrUpdate : Endpoints} {delete : Deletions} (at_moved : s.pass=.moved addOrUpdate delete) :
      Carries s .moving (addOrUpdate,delete)
  | passing {n : ℕ} (at_replacing : s.pass=.replacing n) : Carries s .passing (Given s n)
  | prepared {original addOrUpdate : Endpoints} {delete : Deletions}
      (at_prepared : s.connecting=.prepared original addOrUpdate delete) (filled : Filled (addOrUpdate,delete)) :
      Carries s .connecting (addOrUpdate,delete)
  | told {addOrUpdate : Endpoints} {delete : Deletions} (at_told : s.connecting=.told addOrUpdate delete) :
      Carries s .connecting (addOrUpdate,delete)
  | replacing {n : ℕ} (at_replacing : s.connecting=.replacing n) : Carries s .connecting (Given s n)

/-- The passes and the operations do not get into each other's way. -/
def Undisturbed (s : Delegate) : Event → Prop
  | .executor => s.pass=.wanted → NoneInFlight s
  | .createPostConnectOperation _ => s.connecting=.begun → (∀ n,engaged (s.senders n)=false) ∧
      (∀ addOrUpdate delete,s.pass≠.moved addOrUpdate delete) ∧ ∀ n,s.pass≠.replacing n
  | _ => True

structure Flight (s : Delegate) : Prop where
  copy : ∀ owner g,Carries s owner g → InFlight s=g
  unique : ∀ owner owner' g g',Carries s owner g → Carries s owner' g' → owner=owner'
  /-- Unless a pass has still to find that there is nothing. -/
  filled : ∀ owner g,Carries s owner g → owner≠.moving → Filled g

/-- A step after which only some thread carries what is in flight. -/
theorem Flight.own (owner : Owner) (h : ∀ other g,Carries t other g →
    other=owner ∧ InFlight t=g ∧ (other≠.moving → Filled g)) : Flight t :=
  ⟨fun _ g hg => (h _ g hg).2.1,fun _ _ g g' hg hg' => (h _ g hg).1.trans (h _ g' hg').1.symm,
    fun _ g hg => (h _ g hg).2.2⟩

/-- A step after which no other thread carries anything. -/
theorem Flight.mono (h : Flight s) (hinFlight : InFlight t=InFlight s)
    (hcarries : ∀ owner g,Carries t owner g → Carries s owner g) : Flight t :=
  ⟨fun owner g hg => hinFlight.trans (h.copy owner g (hcarries owner g hg)),
    fun owner owner' g g' hg hg' => h.unique owner owner' g g' (hcarries owner g hg) (hcarries owner' g' hg'),
    fun owner g hg => h.filled owner g (hcarries owner g hg)⟩

theorem Flight.handOver (h : Flight s) (before after : Owner) (hbefore : Carries s before g)
    (hinFlight : InFlight t=InFlight s) (hfilled : after≠.moving → Filled g)
    (hcarries : ∀ owner g',Carries t owner g' →
      (owner=after ∧ g'=g) ∨ (owner≠before ∧ ∃ g',Carries s owner g')) : Flight t := by
  refine Flight.own after fun owner g' hg => ?_
  rcases hcarries owner g' hg with ⟨rfl,rfl⟩|⟨hne,g'',hg''⟩
  · exact ⟨rfl,hinFlight.trans (h.copy before g' hbefore),hfilled⟩
  · exact absurd (h.unique owner before g'' g hg'' hbefore) hne

theorem Flight.sole (h : Flight s) {m : ℕ} (hn : engaged (s.senders n)=true) (hm : engaged (s.senders m)=true) : m=n :=
  Owner.sender.inj (h.unique _ _ _ _ (.sender hm) (.sender hn))

/-- No sender is engaged while nothing is in flight. -/
theorem Flight.disengaged (h : Flight s) (hnone : NoneInFlight s) (n : ℕ) : engaged (s.senders n)=false := by
  by_contra hne
  have hcarries : Carries s (.sender n) (Given s n) := .sender ((Bool.not_eq_false _).mp hne)
  refine h.filled _ _ hcarries nofun ?_
  rw [←h.copy _ _ hcarries]
  exact hnone

def quiet : Pass → Bool
  | .moved _ _ | .replacing _ => false
  | _ => true

/-- An operation that carries nothing. -/
def still : Connecting → Bool
  | .prepared _ _ _ | .told _ _ | .replacing _ => false
  | _ => true

theorem engaged_of_observed {x y : Sender} (hstage : y.stage=x.stage)
    (hobserved : y.observed=true → x.observed=true) (h : engaged y=true) : engaged x=true := by
  unfold engaged at h ⊢
  rw [hstage] at h
  split at h
  · exact hobserved h
  · exact hobserved h
  all_goals first | rfl | cases h

theorem engaged_reset (m : ℕ) (h : engaged (s.resetDiscoveryEventSender.senders m)=true) :
    engaged (s.senders m)=true := by
  refine engaged_of_observed (stage_reset m) ?_ h
  rw [observed_reset]
  split
  · exact nofun
  · exact id

variable {addOrUpdate : Endpoints} {delete : Deletions}

theorem engaged_createSender (m : ℕ) (h : engaged ((s.createSender addOrUpdate delete).senders m)=true) :
    m≠s.created ∧ engaged (s.senders m)=true := by
  have hstage := stage_createSender (s := s) m addOrUpdate delete
  have hobserved := observed_createSender (s := s) m addOrUpdate delete
  rcases eq_or_ne m s.created with heq|hne
  · rw [if_pos heq] at hstage
    rw [if_pos (.inl heq)] at hobserved
    unfold engaged at h
    rw [hstage,hobserved] at h
    cases h
  · rw [if_neg hne] at hstage
    refine ⟨hne,engaged_of_observed hstage ?_ h⟩
    rw [hobserved]
    split
    · exact nofun
    · exact id

theorem engaged_setStage {stage : Stage} {m : ℕ} (h : engaged ((s.setStage n stage).senders m)=true) :
    (m=n ∧ engaged {s.senders n with stage := stage}=true) ∨ (m≠n ∧ engaged (s.senders m)=true) := by
  rcases eq_or_ne m n with rfl|hne
  · have hsender : (s.setStage m stage).senders m={s.senders m with stage := stage} :=
      Function.update_self ..
    rw [hsender] at h
    exact .inl ⟨rfl,h⟩
  · have hsender : (s.setStage n stage).senders m=s.senders m := Function.update_of_ne hne _ _
    rw [hsender] at h
    exact .inr ⟨hne,h⟩

/-- The passes and operations carry what they did, or nothing. -/
theorem Carries.mono {owner : Owner} (h : Carries t owner g) (hpass : t.pass=s.pass ∨ quiet t.pass=true)
    (hconnecting : t.connecting=s.connecting ∨ still t.connecting=true) (hgiven : ∀ m,Given t m=Given s m)
    (hengaged : ∀ m,engaged (t.senders m)=true → engaged (s.senders m)=true) : Carries s owner g := by
  cases h with
  | sender engages =>
    rw [hgiven]
    exact .sender (hengaged _ engages)
  | moving at_moved =>
    rcases hpass with heq|hquiet
    · exact .moving (heq ▸ at_moved)
    · rw [at_moved] at hquiet
      cases hquiet
  | passing at_replacing =>
    rw [hgiven]
    rcases hpass with heq|hquiet
    · exact .passing (heq ▸ at_replacing)
    · rw [at_replacing] at hquiet
      cases hquiet
  | prepared at_prepared filled =>
    rcases hconnecting with heq|hstill
    · exact .prepared (heq ▸ at_prepared) filled
    · rw [at_prepared] at hstill
      cases hstill
  | told at_told =>
    rcases hconnecting with heq|hstill
    · exact .told (heq ▸ at_told)
    · rw [at_told] at hstill
      cases hstill
  | replacing at_replacing =>
    rw [hgiven]
    rcases hconnecting with heq|hstill
    · exact .replacing (heq ▸ at_replacing)
    · rw [at_replacing] at hstill
      cases hstill

section

variable (h : Flight s)
include h

theorem Flight.congr (hinFlight : InFlight t=InFlight s) (hpass : t.pass=s.pass ∨ quiet t.pass=true)
    (hconnecting : t.connecting=s.connecting ∨ still t.connecting=true) (hsenders : t.senders=s.senders) :
    Flight t := by
  refine h.mono hinFlight fun owner g hg => hg.mono hpass hconnecting ?_ ?_
  · intro m
    unfold Given
    rw [hsenders]
  · intro m hm
    rw [hsenders] at hm
    exact hm

theorem Flight.reset : Flight s.resetDiscoveryEventSender :=
  h.mono rfl fun _ _ hg => hg.mono (.inl rfl) (.inl rfl) given_reset engaged_reset

/-- A sender goes on, and is engaged only if it was. -/
theorem Flight.setStage {stage : Stage}
    (hengaged : engaged {s.senders n with stage := stage}=true → engaged (s.senders n)=true) :
    Flight (s.setStage n stage) := by
  refine h.mono rfl fun _ _ hg => hg.mono (.inl rfl) (.inl rfl) (fun m => given_setStage n m stage) ?_
  intro m hm
  rcases engaged_setStage hm with ⟨rfl,hself⟩|⟨_,hother⟩
  · exact hengaged hself
  · exact hother

theorem Flight.release {stage : Stage} (hengaged : engaged (s.senders n)=true)
    (hdone : engaged {s.senders n with stage := stage}=false) (hpass : t.pass=s.pass)
    (hconnecting : t.connecting=s.connecting) (hsenders : t.senders=(s.setStage n stage).senders) : Flight t := by
  refine Flight.own (.sender n) fun owner g hg => ?_
  have hcarries : Carries (s.setStage n stage) owner g := by
    refine hg.mono (.inl hpass) (.inl hconnecting) ?_ ?_
    · intro m
      unfold Given
      rw [hsenders]
    · intro m hm
      rw [hsenders] at hm
      exact hm
  have hbefore : Carries s owner g := by
    refine hcarries.mono (.inl rfl) (.inl rfl) (fun m => given_setStage n m stage) ?_
    intro m hm
    rcases engaged_setStage hm with ⟨rfl,hself⟩|⟨_,hother⟩
    · exact hengaged
    · exact hother
  have howner := h.unique owner (.sender n) g _ hbefore (.sender hengaged)
  cases hcarries with
  | sender engages =>
    rcases engaged_setStage engages with ⟨_,hself⟩|⟨hne,_⟩
    · rw [hdone] at hself
      cases hself
    · exact absurd (Owner.sender.inj howner) hne
  | moving => cases howner
  | passing => cases howner
  | prepared => cases howner
  | told => cases howner
  | replacing => cases howner

theorem flight_movePending (hnone : NoneInFlight s) : Flight s.movePending := by
  have hnobody : ∀ owner g,Carries s owner g → owner≠.moving → False := by
    intro owner g hg hne
    refine h.filled owner g hg hne ?_
    rw [←h.copy owner g hg]
    exact hnone
  refine Flight.own .moving fun owner g hg => ?_
  cases hg with
  | sender engages => exact (hnobody _ _ (.sender engages) nofun).elim
  | moving at_moved =>
    cases at_moved
    exact ⟨rfl,rfl,fun hne => absurd rfl hne⟩
  | passing at_replacing => cases at_replacing
  | prepared at_prepared filled => exact (hnobody _ _ (.prepared at_prepared filled) nofun).elim
  | told at_told => exact (hnobody _ _ (.told at_told) nofun).elim
  | replacing at_replacing => exact (hnobody _ _ (.replacing at_replacing) nofun).elim

theorem flight_createPassSender
    (hpass : s.pass=.moved addOrUpdate delete) : Flight (s.createPassSender addOrUpdate delete) := by
  have hmoving : Carries s .moving (addOrUpdate,delete) := .moving hpass
  unfold createPassSender
  split
  · refine Flight.own .moving fun owner g hg => ?_
    have hbefore : Carries s owner g := hg.mono (.inr rfl) (.inl rfl) (fun _ => rfl) fun _ => id
    have howner := h.unique owner .moving g _ hbefore hmoving
    cases hg with
    | moving at_moved => cases at_moved
    | sender => cases howner
    | passing => cases howner
    | prepared => cases howner
    | told => cases howner
    | replacing => cases howner
  · rename_i hfilled
    refine h.handOver .moving .passing hmoving rfl (fun _ => hfilled) fun owner g hg => ?_
    cases hg with
    | sender engages => exact .inr ⟨nofun,_,.sender (engaged_createSender _ engages).2⟩
    | moving at_moved => cases at_moved
    | passing at_replacing =>
      cases at_replacing
      exact .inl ⟨rfl,(given_createSender s.created addOrUpdate delete).trans (if_pos rfl)⟩
    | prepared at_prepared filled => exact .inr ⟨nofun,_,.prepared at_prepared filled⟩
    | told at_told => exact .inr ⟨nofun,_,.told at_told⟩
    | replacing at_replacing => exact .inr ⟨nofun,_,.replacing at_replacing⟩

end

theorem given_addDiscoveryEventSender (n m : ℕ) : Given (s.addDiscoveryEventSender n) m=Given s m :=
  given_setObserved n m true

theorem engaged_addDiscoveryEventSender {m : ℕ} (hne : m≠n)
    (h : engaged ((s.addDiscoveryEventSender n).senders m)=true) : engaged (s.senders m)=true := by
  have hsender : (s.addDiscoveryEventSender n).senders m=s.senders m := Function.update_of_ne hne _ _
  rw [hsender] at h
  exact h

theorem flight_sendPass (h : Flight s) (hpass : s.pass=.replacing n) : Flight (s.sendPass n) := by
  have hgiven : ∀ m,Given (s.sendPass n) m=Given s m :=
    fun m => (given_setStage n m .sending).trans (given_addDiscoveryEventSender n m)
  refine h.handOver .passing (.sender n) (.passing hpass) rfl ?_ fun owner g hg => ?_
  · exact fun _ => h.filled .passing _ (.passing hpass) nofun
  · cases hg with
    | @sender m engages =>
      rcases engaged_setStage engages with ⟨rfl,_⟩|⟨hne,hother⟩
      · exact .inl ⟨rfl,hgiven m⟩
      · exact .inr ⟨nofun,_,.sender (engaged_addDiscoveryEventSender hne hother)⟩
    | moving at_moved => cases at_moved
    | passing at_replacing => cases at_replacing
    | prepared at_prepared filled => exact .inr ⟨nofun,_,.prepared at_prepared filled⟩
    | told at_told => exact .inr ⟨nofun,_,.told at_told⟩
    | replacing at_replacing => exact .inr ⟨nofun,_,.replacing at_replacing⟩

theorem flight_prepareOperation (loaded : Bool) (hsenders : ∀ n,engaged (s.senders n)=false)
    (hmoved : ∀ addOrUpdate delete,s.pass≠.moved addOrUpdate delete) (hreplacing : ∀ n,s.pass≠.replacing n) :
    Flight (s.prepareOperation loaded) := by
  have hengaged : ∀ n,engaged ((s.prepareOperation loaded).senders n)=false := by
    intro n
    unfold prepareOperation
    split
    · exact hsenders n
    · exact hsenders n
  have hpass : (s.prepareOperation loaded).pass=s.pass := by
    unfold prepareOperation
    split
    · rfl
    · rfl
  refine Flight.own .connecting fun owner g hg => ?_
  cases hg with
  | @sender m engages =>
    rw [hengaged m] at engages
    cases engages
  | moving at_moved => exact absurd (hpass.symm.trans at_moved) (hmoved _ _)
  | passing at_replacing => exact absurd (hpass.symm.trans at_replacing) (hreplacing _)
  | prepared at_prepared filled =>
    refine ⟨rfl,?_,fun _ => filled⟩
    cases loaded with
    | true =>
      cases at_prepared
      rfl
    | false => cases at_prepared
  | told at_told => cases loaded <;> cases at_told
  | replacing at_replacing => cases loaded <;> cases at_replacing

section

variable (h : Flight s)
include h

/-- The observers are told of what need not be sent. -/
theorem flight_tellUnchanged {original addOrUpdate : Endpoints}
    (hprepared : s.connecting=.prepared original addOrUpdate delete) :
    Flight (s.tellUnchanged original addOrUpdate delete) := by
  refine h.mono rfl fun owner g hg => ?_
  by_cases hempty : addOrUpdate.entries=[] ∧ delete.entries=[]
  · refine hg.mono (.inl rfl) (.inr ?_) (fun _ => rfl) fun _ => id
    unfold tellUnchanged
    rw [if_pos hempty]
    rfl
  · have htold : (s.tellUnchanged original addOrUpdate delete).connecting=.told addOrUpdate delete := by
      unfold tellUnchanged
      rw [if_neg hempty]
    cases hg with
    | sender engages => exact .sender engages
    | moving at_moved => exact .moving at_moved
    | passing at_replacing => exact .passing at_replacing
    | prepared at_prepared => cases htold.symm.trans at_prepared
    | told at_told =>
      cases htold.symm.trans at_told
      exact .prepared hprepared hempty
    | replacing at_replacing => cases htold.symm.trans at_replacing

theorem flight_createOperation (htold : s.connecting=.told addOrUpdate delete) :
    Flight {s.createSender addOrUpdate delete with connecting := .replacing s.created} := by
  have hcarries : Carries s .connecting (addOrUpdate,delete) := .told htold
  refine h.handOver .connecting .connecting hcarries rfl ?_ fun owner g hg => ?_
  · exact fun _ => h.filled .connecting _ hcarries nofun
  · cases hg with
    | sender engages => exact .inr ⟨nofun,_,.sender (engaged_createSender _ engages).2⟩
    | moving at_moved => exact .inr ⟨nofun,_,.moving at_moved⟩
    | passing at_replacing => exact .inr ⟨nofun,_,.passing at_replacing⟩
    | prepared at_prepared => cases at_prepared
    | told at_told => cases at_told
    | replacing at_replacing =>
      cases at_replacing
      exact .inl ⟨rfl,(given_createSender s.created addOrUpdate delete).trans (if_pos rfl)⟩

theorem flight_returnOperation (hreplacing : s.connecting=.replacing n) :
    Flight {s.addDiscoveryEventSender n with connecting := .idle,operation := .returned n} := by
  have hcarries : Carries s .connecting (Given s n) := .replacing hreplacing
  refine h.handOver .connecting (.sender n) hcarries rfl ?_ fun owner g hg => ?_
  · exact fun _ => h.filled .connecting _ hcarries nofun
  · cases hg with
    | @sender m engages =>
      rcases eq_or_ne m n with rfl|hne
      · exact .inl ⟨rfl,given_addDiscoveryEventSender m m⟩
      · exact .inr ⟨nofun,_,.sender (engaged_addDiscoveryEventSender hne engages)⟩
    | moving at_moved => exact .inr ⟨nofun,_,.moving at_moved⟩
    | passing at_replacing => exact .inr ⟨nofun,_,.passing at_replacing⟩
    | prepared at_prepared => cases at_prepared
    | told at_told => cases at_told
    | replacing at_replacing => cases at_replacing

theorem flight_abort : Flight {s.abortSender n with operation := .aborted n} := by
  refine h.mono rfl fun owner g hg => hg.mono (.inl rfl) (.inl rfl) (given_abortSender n) ?_
  intro m hm
  have hstage := stage_abortSender (s := s) n m
  have hobserved := observed_abortSender (s := s) n m
  by_cases hself : m=n ∧ (s.senders n).stage=.created
  · rw [if_pos hself] at hstage
    unfold engaged at hm
    rw [hstage] at hm
    cases hm
  · rw [if_neg hself] at hstage
    refine engaged_of_observed hstage ?_ hm
    rw [hobserved]
    split
    · exact nofun
    · exact id

theorem flight_step {event : Event} (hundisturbed : Undisturbed s event) (hstep : Step s event t) : Flight t := by
  cases hstep with
  | addOrUpdateEndpoint =>
    unfold addOrUpdateEndpoint
    split
    · exact h
    · exact h.congr rfl (.inl rfl) (.inl rfl) rfl
  | deleteEndpoint =>
    unfold deleteEndpoint
    split
    · exact h
    · exact h.congr rfl (.inl rfl) (.inl rfl) rfl
  | submitUnlessSending | connect | disconnect | invalidateCapabilities | doShutdown =>
    exact h.congr rfl (.inl rfl) (.inl rfl) rfl
  | beginPass =>
    refine h.congr rfl (.inr ?_) (.inl rfl) rfl
    unfold beginPass
    split
    · rfl
    · rfl
  | lookForSender =>
    refine h.congr rfl (.inr ?_) (.inl rfl) rfl
    unfold lookForSender
    split
    · rfl
    · rfl
  | lookForPending =>
    refine h.congr rfl (.inr ?_) (.inl rfl) rfl
    unfold lookForPending
    split
    · rfl
    · rfl
  | movePending at_wanted => exact flight_movePending h (hundisturbed at_wanted)
  | createPassSender at_moved => exact flight_createPassSender h at_moved
  | refusePass | endPass => exact h.congr rfl (.inr rfl) (.inl rfl) rfl
  | sendPass at_replacing => exact flight_sendPass h at_replacing
  | beginOperation => exact h.reset.congr rfl (.inl rfl) (.inr rfl) rfl
  | prepareOperation at_begun loaded =>
    obtain ⟨hsenders,hmoved,hreplacing⟩ := hundisturbed at_begun
    exact flight_prepareOperation loaded hsenders hmoved hreplacing
  | tellUnchanged at_prepared => exact flight_tellUnchanged h at_prepared
  | createOperation at_told => exact flight_createOperation h at_told
  | returnOperation at_replacing => exact flight_returnOperation h at_replacing
  | performOperation returned fresh =>
    refine h.setStage fun hobserved => ?_
    unfold engaged
    rw [fresh]
    exact hobserved
  | abortOperation => exact flight_abort h
  | retry =>
    unfold notifyRetriable
    split
    · exact h.reset.congr rfl (.inl rfl) (.inl rfl) rfl
    · exact h.congr rfl (.inl rfl) (.inl rfl) rfl
  | fail sends observed | complete sends observed =>
    refine h.setStage fun _ => ?_
    unfold engaged
    rw [sends]
    exact observed
  | giveUp | stop => exact h.setStage Bool.noConfusion
  | store at_completed =>
    refine (@Flight.setStage s _ h .stored fun _ => ?_).congr rfl (.inl rfl) (.inl rfl) rfl
    unfold engaged
    rw [at_completed]
  | storeFails | eraseFails =>
    exact (@Flight.setStage s _ h .unsaved Bool.noConfusion).congr rfl (.inl rfl) (.inl rfl) rfl
  | erase at_stored =>
    refine (@Flight.setStage s _ h .erased fun _ => ?_).congr rfl (.inl rfl) (.inl rfl) rfl
    unfold engaged
    rw [at_stored]
  | notifyUnsaved | notifySuccess | submitPass | notifyFatal =>
    exact (h.setStage Bool.noConfusion).congr rfl (.inl rfl) (.inl rfl) rfl
  | register at_erased =>
    refine h.release ?_ rfl rfl rfl rfl
    unfold engaged
    rw [at_erased]
  | resetCompleted | resetFailed => exact h.reset.setStage Bool.noConfusion
  | readInFlight at_failed =>
    refine h.setStage fun _ => ?_
    unfold engaged
    rw [at_failed]
  | clearInFlight at_read =>
    refine h.release ?_ rfl rfl rfl rfl
    unfold engaged
    rw [at_read]
  | shutdownExecutor => exact h.reset.congr rfl (.inl rfl) (.inl rfl) rfl

end

theorem flight_create (storage : Configs) : Flight (create storage) := by
  refine Flight.own .moving fun owner g hg => ?_
  cases hg with
  | sender engages => cases engages
  | moving at_moved => cases at_moved
  | passing at_replacing | replacing at_replacing => cases at_replacing
  | prepared at_prepared => cases at_prepared
  | told at_told => cases at_told

end AlexaClientSDK.EndpointFlights
