import AlexaClientSDK.LabelledRuns
import AlexaClientSDK.OrderedSets
import Mathlib.Data.List.Induction

/-!
# The operations behind a connection

A sequencer performs its operations one after the other in a thread of its own. `stop`, which comes at any moment,
aborts the current one and waits for the thread.
-/

namespace AlexaClientSDK.PostConnectSequencer

open List LabelledRuns OrderedSets

variable {α : Type*}

inductive Notice
  | onPostConnected
  | onUnRecoverablePostConnectFailure
deriving DecidableEq

/-- What the thread does next, and the operations that are left. -/
inductive Place (α : Type*)
  | next (rest : List α)
  | performing (operation : α) (rest : List α)
  /-- It asks `isStopping`. -/
  | failed
  | telling
  | resetting (connected : Bool)
  | connected
  | ended

structure Sequencer (α : Type*) where
  m_postConnectOperations : List α
  m_isStopping : Bool
  m_currentPostConnectOperation : Option α
  m_mainLoopThread : Option (Place α)
  /-- A call of `stop` waits for the thread. -/
  joining : Bool
  started : List α
  succeeded : List α
  aborted : List α
  told : List Notice

open Sequencer

def Sequencer.new (operations : List α) : Sequencer α := ⟨operations,false,none,none,false,[],[],[],[]⟩

/-- `PostConnectOperationPriorityCompare`. -/
def compare (priority : α → ℕ) (first second : α) : Bool := decide (priority first<priority second)

def insertOperation (priority : α → ℕ) (set : List α) : Option α → List α
  | none => set
  | some operation => insertInto (compare priority) operation set

/-- The set of `PostConnectSequencerFactory::createPostConnect`, from what the providers create. -/
def createPostConnect (priority : α → ℕ) (operations : List (Option α)) : List α :=
  operations.foldl (insertOperation priority) []

namespace Sequencer

variable (s : Sequencer α)

def moveTo (place : Place α) : Sequencer α := {s with m_mainLoopThread := some place}

def doPostConnect : Sequencer α :=
  match s.m_mainLoopThread with
  | some _ => s
  | none => s.moveTo (.next s.m_postConnectOperations)

/-- `stop`, up to the wait. -/
def stop : Sequencer α :=
  if s.m_isStopping then s
  else {s with m_isStopping := true,joining := true,aborted := s.aborted++s.m_currentPostConnectOperation.toList}

/-- The rest of `stop`, which waits while the thread has not ended. -/
def join : Sequencer α :=
  if s.joining then
    match s.m_mainLoopThread with
    | none | some .ended => {s with m_mainLoopThread := none,joining := false}
    | some _ => s
  else s

/-- The next step of `mainLoop`; `performed` is what `performOperation` returns, if it returns here. -/
def proceed (performed : Bool) : Sequencer α :=
  match s.m_mainLoopThread with
  | none | some .ended => s
  | some (.next []) => s.moveTo (.resetting true)
  | some (.next (operation::rest)) =>
    if s.m_isStopping then s.moveTo .ended
    else {s with
      m_currentPostConnectOperation := some operation
      m_mainLoopThread := some (.performing operation rest)
      started := s.started++[operation]}
  | some (.performing operation rest) =>
    if performed then {s with m_mainLoopThread := some (.next rest),succeeded := s.succeeded++[operation]}
    else s.moveTo .failed
  | some .failed => s.moveTo (if s.m_isStopping then .resetting false else .telling)
  | some .telling =>
    {s with m_mainLoopThread := some (.resetting false),told := s.told++[.onUnRecoverablePostConnectFailure]}
  | some (.resetting connected) =>
    {s with m_currentPostConnectOperation := none,m_mainLoopThread := some (if connected then .connected else .ended)}
  | some .connected => {s with m_mainLoopThread := some .ended,told := s.told++[.onPostConnected]}

end Sequencer

inductive Event
  | doPostConnect
  | stop
  | join
  | proceed (performed : Bool)

def Sequencer.perform (s : Sequencer α) : Event → Sequencer α
  | .doPostConnect => s.doPostConnect
  | .stop => s.stop
  | .join => s.join
  | .proceed performed => s.proceed performed

def Step (s : Sequencer α) (event : Event) (t : Sequencer α) : Prop := s.perform event=t

/-- Operations are begun in order, each when the one before has succeeded. Success is told when all have, failure when the last
one has not, which is also the one that is aborted. -/
structure Sequenced (operations : List α) (s : Sequencer α) : Prop where
  ordered : s.started <+: operations
  one : s.started=s.succeeded ∨ ∃ operation,s.started=s.succeeded++[operation]
  success : .onPostConnected∈s.told → s.succeeded=operations
  failure : .onUnRecoverablePostConnectFailure∈s.told → s.started≠s.succeeded
  once : operations≠[] → s.told.length≤1
  aborted : s.aborted=[] ∨ s.m_isStopping=true ∧ ∃ before operation,s.started=before++[operation] ∧ s.aborted=[operation]

/-- An operation that is begun and has no result. -/
def Sequencer.Busy (s : Sequencer α) (operation : α) : Prop := s.started=s.succeeded++[operation] ∧ s.told=[]

/-- What holds where the thread is. A thread that comes behind the end of `stop` begins with all operations. -/
def Fits (s : Sequencer α) : Option (Place α) → Prop
  | none => s.m_isStopping=false → s.started=[] ∧ s.succeeded=[] ∧ s.told=[]
  | some (.next rest) => s.started=s.succeeded ∧ s.told=[] ∧ s.m_postConnectOperations=s.started++rest ∨
      s.m_isStopping=true ∧ rest=s.m_postConnectOperations
  | some (.performing operation rest) => s.Busy operation ∧ s.m_postConnectOperations=s.started++rest ∧
      s.m_currentPostConnectOperation=some operation ∧ (s.m_isStopping=true → s.aborted=[operation])
  | some .failed | some .telling => ∃ operation,s.Busy operation
  | some (.resetting true) | some .connected => s.succeeded=s.m_postConnectOperations ∧
      (s.told=[] ∨ s.m_postConnectOperations=[])
  | some (.resetting false) | some .ended => True

structure Inv (operations : List α) (s : Sequencer α) : Prop where
  same : s.m_postConnectOperations=operations
  sequenced : Sequenced operations s
  stopping : s.joining=true → s.m_isStopping=true
  unaborted : s.m_isStopping=false → s.aborted=[]
  current : ∀ operation,s.m_currentPostConnectOperation=some operation → ∃ before,s.started=before++[operation]
  fits : Fits s s.m_mainLoopThread

section

variable {operations : List α} {s : Sequencer α}

theorem inv_new (operations : List α) : Inv operations (.new operations) :=
  ⟨rfl,⟨ nil_prefix,.inl rfl,nofun,nofun,fun _ => Nat.zero_le _,.inl rfl⟩,nofun,fun _ => rfl,nofun,fun _ => ⟨rfl,rfl,rfl⟩⟩

/-- The thread moves on, and nothing else changes. -/
theorem Inv.moveTo (h : Inv operations s) {place : Place α} (hfits : Fits s (some place)) :
    Inv operations (s.moveTo place) := by
  obtain ⟨hoperations,hsequenced,hstopping,hunaborted,hcurrent,-⟩ := h
  refine ⟨hoperations,⟨hsequenced.1,hsequenced.2,hsequenced.3,hsequenced.4,hsequenced.5,hsequenced.6⟩,hstopping,hunaborted,
    hcurrent,?_⟩
  unfold Fits at hfits ⊢
  exact hfits

theorem inv_proceed (h : Inv operations s) (performed : Bool) : Inv operations (s.proceed performed) := by
  obtain ⟨rfl,⟨hordered,hone,hsuccess,hfailure,honce,haborted⟩,hstopping,hunaborted,hcurrent,hfits⟩ := id h
  unfold proceed
  split
  · exact h
  · exact h
  next hthread =>
    rw [hthread] at hfits
    refine h.moveTo ?_
    rcases hfits with ⟨hsame,htold,hall⟩|⟨-,hnone⟩
    · rw [append_nil] at hall
      exact ⟨hsame.symm.trans hall.symm,.inl htold⟩
    · have hempty := prefix_nil.mp (hnone ▸ hordered)
      refine ⟨?_,.inr hnone.symm⟩
      rcases hone with hone|⟨operation,hone⟩
      · exact hone.symm.trans (hempty.trans hnone)
      · exact (cons_ne_nil _ _ (append_eq_nil_iff.mp (hone.symm.trans hempty)).2).elim
  next operation rest hthread =>
    rw [hthread] at hfits
    split
    · exact h.moveTo trivial
    next hgoing =>
      obtain ⟨hsame,htold,hall⟩ := hfits.resolve_right fun h => hgoing h.1
      have hnone := hunaborted (Bool.eq_false_iff.mpr hgoing)
      have hall' : s.m_postConnectOperations=(s.started++[operation])++rest := by
        rw [hall,append_assoc,singleton_append]
      refine ⟨rfl,⟨⟨rest,hall'.symm⟩,.inr ⟨operation,congrArg (· ++ _) hsame⟩,?_,?_,honce,.inl hnone⟩,
        hstopping,hunaborted,?_,?_⟩
      · rw [htold]; nofun
      · rw [htold]; nofun
      · exact fun _ heq => ⟨s.started,congrArg (s.started++[·]) (Option.some.inj heq)⟩
      · exact ⟨⟨congrArg (· ++ _) hsame,htold⟩,hall',rfl,fun h => (hgoing h).elim⟩
  next operation rest hthread =>
    rw [hthread] at hfits
    obtain ⟨⟨hbusy,htold⟩,hall,-,-⟩ := hfits
    split
    · refine ⟨rfl,⟨hordered,.inl hbusy,?_,?_,honce,haborted⟩,hstopping,hunaborted,hcurrent,.inl ⟨hbusy,htold,hall⟩⟩
      · rw [htold]; nofun
      · rw [htold]; nofun
    · exact h.moveTo ⟨operation,hbusy,htold⟩
  next hthread =>
    rw [hthread] at hfits
    split
    · exact h.moveTo trivial
    · exact h.moveTo hfits
  next hthread =>
    rw [hthread] at hfits
    obtain ⟨operation,hbusy,htold⟩ := hfits
    refine ⟨rfl,⟨hordered,hone,?_,fun _ => ?_,fun _ => ?_,haborted⟩,hstopping,hunaborted,hcurrent,trivial⟩
    · rw [htold]; nofun
    · rw [hbusy]
      exact fun heq => cons_ne_nil _ _ (append_right_eq_self.mp heq)
    · rw [htold]; exact Nat.le_refl _
  next connected hthread =>
    rw [hthread] at hfits
    refine ⟨rfl,⟨hordered,hone,hsuccess,hfailure,honce,haborted⟩,hstopping,hunaborted,nofun,?_⟩
    cases connected with
    | true => exact hfits
    | false => trivial
  next hthread =>
    rw [hthread] at hfits
    obtain ⟨hall,htold⟩ := hfits
    refine ⟨rfl,⟨hordered,hone,fun _ => hall,fun hmem => ?_,fun hsome => ?_,haborted⟩,hstopping,hunaborted,hcurrent,trivial⟩
    · exact hfailure ((mem_append.mp hmem).resolve_right (by decide))
    · rw [htold.resolve_right hsome]; exact Nat.le_refl _

theorem inv_perform (h : Inv operations s) (event : Event) : Inv operations (s.perform event) := by
  obtain ⟨rfl,⟨hordered,hone,hsuccess,hfailure,honce,haborted⟩,hstopping,hunaborted,hcurrent,hfits⟩ := id h
  cases event with
  | doPostConnect =>
    change Inv _ s.doPostConnect
    unfold doPostConnect
    split
    · exact h
    next hthread =>
      rw [hthread] at hfits
      refine h.moveTo ?_
      cases hstop : s.m_isStopping with
      | true => exact .inr ⟨hstop,rfl⟩
      | false =>
        obtain ⟨hstarted,hsucceeded,htold⟩ := hfits hstop
        exact .inl ⟨hstarted.trans hsucceeded.symm,htold,by rw [hstarted,nil_append]⟩
  | stop =>
    change Inv _ s.stop
    unfold stop
    split
    · exact h
    next hgoing =>
      have hnone := hunaborted (Bool.eq_false_iff.mpr hgoing)
      rw [hnone,nil_append]
      refine ⟨rfl,⟨hordered,hone,hsuccess,hfailure,honce,?_⟩,fun _ => rfl,nofun,hcurrent,?_⟩
      · cases hoperation : s.m_currentPostConnectOperation with
        | none => exact .inl rfl
        | some operation =>
          obtain ⟨before,hbefore⟩ := hcurrent operation hoperation
          exact .inr ⟨rfl,before,operation,hbefore,rfl⟩
      · cases hthread : s.m_mainLoopThread with
        | none => exact nofun
        | some place =>
          rw [hthread] at hfits
          cases place with
          | next rest => exact .inl (hfits.resolve_right fun h => hgoing h.1)
          | performing operation rest =>
            obtain ⟨hbusy,hall,hoperation,-⟩ := hfits
            exact ⟨hbusy,hall,hoperation,fun _ => by rw [hoperation]; rfl⟩
          | failed | telling | connected => exact hfits
          | resetting connected => cases connected <;> exact hfits
          | ended => trivial
  | join =>
    change Inv _ s.join
    unfold join
    split
    next hjoining =>
      have hstop := hstopping hjoining
      have hjoined : Inv s.m_postConnectOperations {s with m_mainLoopThread := none,joining := false} :=
        ⟨rfl,⟨hordered,hone,hsuccess,hfailure,honce,haborted⟩,nofun,hunaborted,hcurrent,
          fun h => Bool.noConfusion (hstop.symm.trans h)⟩
      split
      · exact hjoined
      · exact hjoined
      · exact h
    · exact h
  | proceed performed => exact inv_proceed h performed

/-- How many steps the thread has at most to its end, when it is stopped. -/
def stepsLeft : Option (Place α) → ℕ
  | none | some .ended => 0
  | some .connected => 1
  | some (.resetting _) => 2
  | some (.next _) | some .failed | some .telling => 3
  | some (.performing ..) => 4

/-- Behind `stop` nothing is begun or aborted any more. -/
structure Stays (s t : Sequencer α) : Prop where
  stopping : t.m_isStopping=true
  started : t.started=s.started
  aborted : t.aborted=s.aborted

theorem proceed_stopping (hstop : s.m_isStopping=true) (performed : Bool) :
    Stays s (s.proceed performed) ∧ stepsLeft (s.proceed performed).m_mainLoopThread≤ stepsLeft s.m_mainLoopThread-1 := by
  unfold proceed
  split
  next hthread => rw [hthread]; exact ⟨⟨hstop,rfl,rfl⟩,Nat.zero_le _⟩
  next hthread => rw [hthread]; exact ⟨⟨hstop,rfl,rfl⟩,Nat.zero_le _⟩
  next hthread => rw [hthread]; exact ⟨⟨hstop,rfl,rfl⟩,Nat.le_refl _⟩
  · rw [if_pos hstop]; exact ⟨⟨hstop,rfl,rfl⟩,Nat.zero_le _⟩
  next hthread => rw [hthread]; cases performed <;> exact ⟨⟨hstop,rfl,rfl⟩,Nat.le_refl _⟩
  next hthread => rw [hthread,if_pos hstop]; exact ⟨⟨hstop,rfl,rfl⟩,Nat.le_refl _⟩
  next hthread => rw [hthread]; exact ⟨⟨hstop,rfl,rfl⟩,Nat.le_refl _⟩
  next connected hthread => rw [hthread]; cases connected <;> exact ⟨⟨hstop,rfl,rfl⟩,Nat.le_of_ble_eq_true rfl⟩
  · exact ⟨⟨hstop,rfl,rfl⟩,Nat.zero_le _⟩

theorem perform_stopping (hstop : s.m_isStopping=true) (event : Event) : Stays s (s.perform event) := by
  cases event with
  | doPostConnect =>
    unfold perform doPostConnect
    dsimp only
    split <;> exact ⟨hstop,rfl,rfl⟩
  | stop =>
    have hsame : s.perform .stop=s := if_pos hstop
    rw [hsame]
    exact ⟨hstop,rfl,rfl⟩
  | join =>
    unfold perform join
    dsimp only
    split
    · split <;> exact ⟨hstop,rfl,rfl⟩
    · exact ⟨hstop,rfl,rfl⟩
  | proceed performed => exact (proceed_stopping hstop performed).1

/-- A stopped thread that goes on so many times has so many steps less to make. -/
theorem stepsLeft_foldl (performed : List Bool) (hstop : s.m_isStopping=true) :
    stepsLeft (performed.foldl proceed s).m_mainLoopThread≤ stepsLeft s.m_mainLoopThread-performed.length := by
  induction performed generalizing s with
  | nil => exact Nat.le_refl _
  | cons first rest ih =>
    obtain ⟨hstays,hfirst⟩ := proceed_stopping hstop first
    have hrest := ih hstays.stopping
    rw [foldl_cons,length_cons]
    omega

end

section

variable (priority : α → ℕ)

theorem compare_comparison : Comparison (compare priority) := by
  refine ⟨fun hless => decide_eq_false (Nat.lt_asymm (of_decide_eq_true hless)),fun {a b} c hless => ?_⟩
  rcases Nat.lt_or_ge (priority a) (priority c) with hac|hca
  · exact .inl (decide_eq_true hac)
  · exact .inr (decide_eq_true (Nat.lt_of_le_of_lt hca (of_decide_eq_true hless)))

/-- An insertion keeps the priorities, and adds that of the operation. -/
theorem priority_insertInto {set : List α} (hset : Ordered (compare priority) set) {operation a : α}
    (ha : a=operation ∨ a∈set) : ∃ b∈insertInto (compare priority) operation set,priority b=priority a := by
  by_cases hnew : ∀ b∈set,compare priority operation b=true ∨ compare priority b operation=true
  · exact ⟨a,(insertInto_perm hnew).mem_iff.mpr (mem_cons.mpr ha),rfl⟩
  · obtain ⟨b,hb,hequal⟩ := not_forall₂.mp hnew
    obtain ⟨hab,hba⟩ := not_or.mp hequal
    rw [insertInto_same (compare_comparison priority) hset hb (Bool.eq_false_iff.mpr hab) (Bool.eq_false_iff.mpr hba)]
    rcases ha with rfl|ha
    · refine ⟨b,hb,Nat.le_antisymm (Nat.le_of_not_lt fun hless => ?_) (Nat.le_of_not_lt fun hless => ?_)⟩
      · exact hab (decide_eq_true hless)
      · exact hba (decide_eq_true hless)
    · exact ⟨a,ha,rfl⟩

/-- The set is in order, and has an operation of each priority that it was given. -/
theorem createPostConnect_spec (operations : List (Option α)) :
    Ordered (compare priority) (createPostConnect priority operations) ∧
      ∀ operation,some operation∈operations → ∃ a∈createPostConnect priority operations,priority a=priority operation := by
  induction operations using reverseRecOn with
  | nil => exact ⟨.nil,nofun⟩
  | append_singleton operations created ih =>
    obtain ⟨hordered,hall⟩ := ih
    unfold createPostConnect at hordered hall ⊢
    rw [foldl_append]
    cases created with
    | none => exact ⟨hordered,fun operation h => hall operation ((mem_append.mp h).resolve_right (by simp))⟩
    | some created =>
      refine ⟨hordered.insertInto (compare_comparison priority) created,fun operation h => ?_⟩
      rcases mem_append.mp h with h|h
      · obtain ⟨a,ha,heq⟩ := hall operation h
        obtain ⟨b,hb,heq'⟩ := priority_insertInto priority hordered (.inr ha)
        exact ⟨b,hb,heq'.trans heq⟩
      · obtain rfl := Option.some.inj (mem_singleton.mp h)
        exact priority_insertInto priority hordered (.inl rfl)

end

/-- In every run the operations are performed by priority as long as they succeed, and behind `stop` the thread begins none, and
ends when the one that was aborted returns. -/
theorem sequenced_of_run (priority : α → ℕ) (operations : List (Option α)) {trace : List Event} {s : Sequencer α}
    (run : Run Step (.new (createPostConnect priority operations)) trace s) :
    Sequenced (createPostConnect priority operations) s ∧
    s.started.Pairwise (fun a b => priority a<priority b) ∧
    (.onPostConnected∈s.told → ∀ operation,some operation∈operations → ∃ a∈s.succeeded,priority a=priority operation) ∧
    (s.m_isStopping=true → (∀ operation rest,s.m_mainLoopThread=some (.performing operation rest) → s.aborted=[operation]) ∧
      (∀ {later : List Event} {t : Sequencer α},Run Step s later t → Stays s t) ∧
      ∀ performed : List Bool,4≤performed.length → stepsLeft (performed.foldl proceed s).m_mainLoopThread=0) := by
  have hinv := run.invariant (Inv _) (inv_new _) fun s event t hinv hstep => hstep ▸ inv_perform hinv event
  obtain ⟨hordered,hall⟩ := createPostConnect_spec priority operations
  refine ⟨hinv.sequenced,?_,fun htold operation hgiven => ?_,fun hstop => ⟨fun operation rest hthread => ?_,fun later => ?_,
    fun performed hlong => ?_⟩⟩
  · exact (hordered.sublist hinv.sequenced.ordered.sublist).imp of_decide_eq_true
  · rw [hinv.sequenced.success htold]
    exact hall operation hgiven
  · have hfits := hinv.fits
    rw [hthread] at hfits
    exact hfits.2.2.2 hstop
  · refine later.invariant (Stays s) ⟨hstop,rfl,rfl⟩ fun t event u ht hstep => ?_
    obtain ⟨hstopping,hstarted,haborted⟩ := hstep ▸ perform_stopping ht.stopping event
    exact ⟨hstopping,hstarted.trans ht.started,haborted.trans ht.aborted⟩
  · have hless := stepsLeft_foldl performed hstop
    have hmost : stepsLeft s.m_mainLoopThread≤4 := by
      unfold stepsLeft
      split <;> decide
    omega

/-- `stop` aborts the first operation, which succeeds nevertheless. -/
def stopped : List Event := [.doPostConnect,.proceed true,.stop,.proceed true,.proceed true,.join]

theorem run_foldl (s : Sequencer α) (events : List Event) : Run Step s events (events.foldl perform s) := by
  induction events using reverseRecOn with
  | nil => exact .refl
  | append_singleton events event ih =>
    rw [foldl_append]
    exact ih.snoc rfl

/-- Behind `stop` the operation at 100 is not begun. -/
theorem sequenced_of_run_stopped : (stopped.foldl perform (.new [50,100])).started=[50] ∧
    Sequenced (createPostConnect id [some 100,none,some 50])
      (stopped.foldl perform (.new (createPostConnect id [some 100,none,some 50]))) :=
  ⟨rfl,(sequenced_of_run id [some 100,none,some 50] (run_foldl _ stopped)).1⟩

end AlexaClientSDK.PostConnectSequencer
