import Mathlib.Data.List.AList
import Mathlib.Data.List.Sort
import AlexaClientSDK.Histories
import AlexaClientSDK.LabelledRuns

/-!
# The timer for many tasks

`MultiTimer` runs tasks when their deadlines have passed, on a thread that it starts when there is something to wait
for. Deadlines are in an ordered table, and tasks under their tokens. A step is a call, or what the thread does while it
has the lock, with which it runs the tasks; it may be woken at any time. There are fewer than 2^64 submissions, so that
tokens do not wrap around.
-/

namespace AlexaClientSDK.MultiTimer

open AList List LabelledRuns Histories

/-- A `uint64_t` in the source: no two of fewer than 2^64 submissions get the same. -/
abbrev Token := ℕ

abbrev TimePoint := ℤ

/-- Where the timer thread is. -/
inductive Worker
  | idle
  /-- At the top of the loop in `executeTimer`. -/
  | looping
  | waiting
  /-- It waits in `hasNextLocked`. -/
  | ending
deriving DecidableEq

variable {τ : Type}

inductive Mark (τ : Type)
  | submitted (token : Token) (timePoint : TimePoint) (task : τ)
  | cancelled (token : Token)
  | ran (token : Token) (timePoint : TimePoint) (task : τ) (now : TimePoint)
deriving DecidableEq

/-- The state of a `MultiTimer`. -/
structure Timer (τ : Type) where
  timers : List (TimePoint × Token)
  tasks : AList fun _ : Token => TimePoint × τ
  isRunning : Bool
  isBeingDestroyed : Bool
  nextToken : Token
  worker : Worker
  history : List (Mark τ)

def create : Timer τ where
  timers := []
  tasks := ∅
  isRunning := false
  isBeingDestroyed := false
  nextToken := 0
  worker := .idle
  history := []

/-- `insert` for `m_timers`: behind those with the same time point. -/
def insertTimer (timer : TimePoint × Token) (timers : List (TimePoint × Token)) : List (TimePoint × Token) :=
  timers.orderedInsert (fun first second => first.1<second.1) timer

namespace Timer

section

variable (s : Timer τ)

def submitTask (timePoint : TimePoint) (task : τ) : Timer τ where
  timers := insertTimer (timePoint,s.nextToken) s.timers
  tasks := if s.nextToken∈s.tasks then s.tasks else s.tasks.insert s.nextToken (timePoint,task)
  isRunning := true
  isBeingDestroyed := s.isBeingDestroyed
  nextToken := s.nextToken+1
  worker := if s.isRunning then s.worker else .looping
  history := s.history++[.submitted s.nextToken timePoint task]

def cancelTask (token : Token) : Timer τ :=
  let s := {s with history := s.history++[Mark.cancelled token]}
  match s.tasks.lookup token with
  | some (timePoint,_) => {s with timers := s.timers.erase (timePoint,token),tasks := s.tasks.erase token}
  | none => s

/-- The destructor, up to where it waits for the thread. -/
def destroy : Timer τ := {s with timers := [],tasks := ∅,isBeingDestroyed := true}

/-- One turn of the loop in `executeTimer`. -/
def executeTimer (now : TimePoint) : Timer τ :=
  match s.timers with
  | [] => {s with worker := .ending}
  | (nextTime,token)::timers =>
    if now<nextTime then {s with worker := .waiting}
    else
      match s.tasks.lookup token with
      | some (_,task) =>
        {s with
          timers := timers
          tasks := s.tasks.erase token
          history := s.history++[.ran token nextTime task now]}
      | none => {s with timers := timers}

/-- `hasNextLocked`, after the wait. -/
def hasNextLocked : Timer τ :=
  let isRunning := !s.isBeingDestroyed && !s.tasks.entries.isEmpty
  {s with
    isRunning := isRunning
    worker := if isRunning then .looping else .idle}

end

end Timer

/-- What can happen. -/
inductive Event (τ : Type)
  | submitTask (now delay : TimePoint) (task : τ)
  | cancelTask (token : Token)
  | destroy
  /-- The thread takes another turn. -/
  | executeTimer (now : TimePoint)
  | wake
  /-- It has waited for another task. -/
  | hasNextLocked

/-- It can happen now. -/
def Possible (s : Timer τ) : Event τ → Prop
  | .submitTask _ _ _ | .cancelTask _ | .destroy => s.isBeingDestroyed=false
  | .executeTimer _ => s.worker=.looping
  | .wake => s.worker=.waiting
  | .hasNextLocked => s.worker=.ending

instance (s : Timer τ) : (event : Event τ) → Decidable (Possible s event)
  | .submitTask _ _ _ | .cancelTask _ | .destroy => inferInstanceAs (Decidable (s.isBeingDestroyed=false))
  | .executeTimer _ => inferInstanceAs (Decidable (s.worker=.looping))
  | .wake => inferInstanceAs (Decidable (s.worker=.waiting))
  | .hasNextLocked => inferInstanceAs (Decidable (s.worker=.ending))

def Timer.next (s : Timer τ) : Event τ → Timer τ
  | .submitTask now delay task => s.submitTask (now+delay) task
  | .cancelTask token => s.cancelTask token
  | .destroy => s.destroy
  | .executeTimer now => s.executeTimer now
  | .wake => {s with worker := .looping}
  | .hasNextLocked => s.hasNextLocked

def Step (s : Timer τ) (event : Event τ) (t : Timer τ) : Prop := Possible s event ∧ t=s.next event

theorem step_next (s : Timer τ) (event : Event τ) (hpossible : decide (Possible s event)=true) :
    Step s event (s.next event) := ⟨of_decide_eq_true hpossible,rfl⟩

/-- The two tables describe the same tasks. -/
structure Agree (s : Timer τ) : Prop where
  nodup : (s.timers.map Prod.snd).Nodup
  agree : ∀ timePoint token,(timePoint,token)∈s.timers ↔ ∃ task,s.tasks.lookup token=some (timePoint,task)

/-- The task may be run after this. -/
structure Fair (before : List (Mark τ)) (token : Token) (timePoint : TimePoint) (task : τ) : Prop where
  submitted : .submitted token timePoint task∈before
  once : ∀ earlier other now,.ran token earlier other now∉before
  live : ∀ past future,before=past++.cancelled token::future →
    ∀ earlier other,.submitted token earlier other∉past
  /-- No task with a later deadline was run while it waited. -/
  inOrder : ∀ past other later task' now future,before=past++.ran other later task' now::future →
    later≤timePoint ∨ .submitted token timePoint task∈future

/-- A task may be run, and its deadline has passed. -/
def Law (before : List (Mark τ)) (mark : Mark τ) : Prop :=
  ∀ token timePoint task now,mark=.ran token timePoint task now → Fair before token timePoint task ∧ timePoint≤now

theorem perm_insertTimer (timer : TimePoint × Token) (timers : List (TimePoint × Token)) :
    (insertTimer timer timers).Perm (timer::timers) := perm_orderedInsert _ _ _

variable {timers : List (TimePoint × Token)}

theorem sorted_insertTimer (timer : TimePoint × Token) (h : timers.Pairwise fun first second => first.1 ≤ second.1) :
    (insertTimer timer timers).Pairwise fun first second => first.1 ≤ second.1 := by
  induction timers with
  | nil => exact pairwise_singleton _ _
  | cons first rest ih =>
    obtain ⟨hfirst,hrest⟩ := pairwise_cons.mp h
    unfold insertTimer
    rw [orderedInsert_cons]
    split
    next hlt =>
      refine pairwise_cons.mpr ⟨fun other hother => ?_,h⟩
      obtain rfl|hother := mem_cons.mp hother
      · exact Int.le_of_lt hlt
      · exact (Int.le_of_lt hlt).trans (hfirst other hother)
    next hle =>
      refine pairwise_cons.mpr ⟨fun other hother => ?_,ih hrest⟩
      obtain rfl|hother := mem_cons.mp ((perm_insertTimer timer rest).mem_iff.mp hother)
      · exact Int.not_lt.mp hle
      · exact hfirst other hother

variable {s t : Timer τ} {before : List (Mark τ)} {token : Token} {timePoint : TimePoint} {task : τ}

theorem Fair.snoc (h : Fair before token timePoint task) {mark : Mark τ} (hcancelled : mark≠.cancelled token)
    (hran : ∀ other later task' now,mark=.ran other later task' now → other≠token ∧ later≤timePoint) :
    Fair (before++[mark]) token timePoint task where
  submitted := mem_append_left _ h.submitted
  once earlier other now hmem := by
    obtain hold|hnew := mem_append.mp hmem
    · exact h.once earlier other now hold
    · exact (hran token earlier other now (mem_singleton.mp hnew).symm).1 rfl
  live past future heq := by
    obtain ⟨-,-,hlast⟩|⟨rest,-,hinit⟩ := snoc_eq_append heq
    · exact (hcancelled hlast.symm).elim
    · exact h.live past rest hinit
  inOrder past other later task' now future heq := by
    obtain ⟨-,-,hlast⟩|⟨rest,hfuture,hinit⟩ := snoc_eq_append heq
    · exact .inl (hran other later task' now hlast.symm).2
    · obtain hle|hmem := h.inOrder past other later task' now rest hinit
      · exact .inl hle
      · rw [hfuture]
        exact .inr (mem_append_left _ hmem)

theorem fair_submitted (hnew : ∀ earlier other,.submitted token earlier other∉before)
    (hran : ∀ earlier other now,.ran token earlier other now∉before) :
    Fair (before++[.submitted token timePoint task]) token timePoint task where
  submitted := mem_concat_self
  once earlier other now hmem := by
    obtain hold|hnew := mem_append.mp hmem
    · exact hran earlier other now hold
    · cases mem_singleton.mp hnew
  live past future heq earlier other hmem := by
    obtain ⟨-,-,hlast⟩|⟨rest,-,hinit⟩ := snoc_eq_append heq
    · cases hlast
    · refine hnew earlier other ?_
      rw [hinit]
      exact mem_append_left _ hmem
  inOrder past other later task' now future heq := by
    obtain ⟨-,-,hlast⟩|⟨rest,hfuture,-⟩ := snoc_eq_append heq
    · cases hlast
    · rw [hfuture]
      exact .inr mem_concat_self

/-- What holds in every run. -/
structure Inv (s : Timer τ) : Prop where
  agree : Agree s
  sorted : s.timers.Pairwise fun first second => first.1 ≤ second.1
  fresh : ∀ token earlier other,.submitted token earlier other∈s.history → token<s.nextToken
  fair : ∀ token timePoint task,s.tasks.lookup token=some (timePoint,task) → Fair s.history token timePoint task
  law : AtEvery Law s.history

theorem inv_create : Inv (create : Timer τ) where
  agree := ⟨nodup_nil,fun _ _ => ⟨fun hmem => (by cases hmem),fun ⟨_,hlookup⟩ => (by cases hlookup)⟩⟩
  sorted := List.Pairwise.nil
  fresh _ _ _ hmem := by cases hmem
  fair _ _ _ hlookup := by cases hlookup
  law := atEvery_nil

section

variable (h : Inv s)
include h

theorem Inv.worker (worker : Worker) : Inv {s with worker := worker} :=
  ⟨⟨h.agree.nodup,h.agree.agree⟩,h.sorted,h.fresh,h.fair,h.law⟩

theorem Inv.submitted_of_ran {earlier now : TimePoint} {other : τ}
    (hmem : .ran token earlier other now∈s.history) : .submitted token earlier other∈s.history := by
  obtain ⟨past,future,heq⟩ := append_of_mem hmem
  have hfair := (h.law past _ future heq token earlier other now rfl).1
  rw [heq]
  exact mem_append_left _ hfair.submitted

theorem Inv.lookup_next : s.tasks.lookup s.nextToken=none := by
  cases hlookup : s.tasks.lookup s.nextToken with
  | none => rfl
  | some entry => exact absurd (h.fresh _ _ _ (h.fair _ entry.1 entry.2 hlookup).submitted) (Nat.lt_irrefl _)

theorem Inv.token_mem : token∈s.timers.map Prod.snd ↔ s.tasks.lookup token≠none := by
  constructor
  · intro hmem
    obtain ⟨⟨timePoint,known⟩,htimer,heq⟩ := mem_map.mp hmem
    obtain rfl : known=token := heq
    obtain ⟨task,hlookup⟩ := (h.agree.agree timePoint known).mp htimer
    rw [hlookup]
    exact nofun
  · intro hsome
    obtain ⟨⟨timePoint,task⟩,hlookup⟩ := Option.ne_none_iff_exists'.mp hsome
    exact mem_map.mpr ⟨_,(h.agree.agree timePoint token).mpr ⟨task,hlookup⟩,rfl⟩

theorem Inv.submitTask (timePoint : TimePoint) (task : τ) : Inv (s.submitTask timePoint task) := by
  have hnone := h.lookup_next
  have habsent : s.nextToken∉s.tasks := lookup_eq_none.mp hnone
  have hperm := perm_insertTimer (timePoint,s.nextToken) s.timers
  have htasks : (s.submitTask timePoint task).tasks=s.tasks.insert s.nextToken (timePoint,task) := if_neg habsent
  have hself : (s.submitTask timePoint task).tasks.lookup s.nextToken=some (timePoint,task) := by
    rw [htasks,lookup_insert]
  have hother : ∀ token,token≠s.nextToken → (s.submitTask timePoint task).tasks.lookup token=s.tasks.lookup token := by
    intro token hne
    rw [htasks,lookup_insert_ne hne]
  refine ⟨⟨?_,fun deadline token => ?_⟩,sorted_insertTimer _ h.sorted,fun token earlier other hmem => ?_,
    fun token deadline other hlookup => ?_,atEvery_snoc h.law nofun⟩
  · refine (hperm.map Prod.snd).nodup_iff.mpr (nodup_cons.mpr ⟨fun hmem => ?_,h.agree.nodup⟩)
    exact h.token_mem.mp hmem hnone
  · have hmem : (deadline,token)∈(s.submitTask timePoint task).timers ↔
        (deadline,token)=(timePoint,s.nextToken) ∨ (deadline,token)∈s.timers :=
      hperm.mem_iff.trans mem_cons
    rw [hmem]
    by_cases heq : token=s.nextToken
    · subst heq
      rw [hself,h.agree.agree,hnone]
      constructor
      · rintro (hpair|⟨_,hlookup⟩)
        · exact ⟨task,by rw [(Prod.mk.inj hpair).1]⟩
        · cases hlookup
      · rintro ⟨other,hsome⟩
        exact .inl (by rw [(Prod.mk.inj (Option.some.inj hsome)).1])
    · rw [hother token heq,h.agree.agree]
      constructor
      · rintro (hpair|hlookup)
        · exact (heq (Prod.mk.inj hpair).2).elim
        · exact hlookup
      · exact .inr
  · obtain hmem|hnew := mem_append.mp hmem
    · exact Nat.lt_succ_of_lt (h.fresh token earlier other hmem)
    · cases mem_singleton.mp hnew
      exact Nat.lt_succ_self _
  · by_cases heq : token=s.nextToken
    · subst heq
      cases hself.symm.trans hlookup
      refine fair_submitted (fun earlier other hmem => ?_) fun earlier other now hmem => ?_
      · exact Nat.lt_irrefl _ (h.fresh _ _ _ hmem)
      · exact Nat.lt_irrefl _ (h.fresh _ _ _ (h.submitted_of_ran hmem))
    · rw [hother token heq] at hlookup
      exact (h.fair token deadline other hlookup).snoc nofun nofun

theorem Inv.remove
    (hperm : s.timers.Perm ((timePoint,token)::timers)) (hsublist : timers.Sublist s.timers) {mark : Mark τ}
    (hmark : ∀ other earlier task',mark≠.submitted other earlier task') (hlaw : Law s.history mark)
    (hfair : ∀ other deadline task',other≠token → (deadline,other)∈timers →
      Fair s.history other deadline task' → Fair (s.history++[mark]) other deadline task') :
    Inv {s with timers := timers,tasks := s.tasks.erase token,history := s.history++[mark]} := by
  have hnodup := (hperm.map Prod.snd).nodup_iff.mp h.agree.nodup
  obtain ⟨hgone,hrest⟩ := nodup_cons.mp hnodup
  have hother : ∀ other deadline,other≠token → ((deadline,other)∈s.timers ↔ (deadline,other)∈timers) := by
    intro other deadline hne
    rw [hperm.mem_iff,mem_cons]
    exact or_iff_right fun hpair => hne (Prod.mk.inj hpair).2
  refine ⟨⟨hrest,fun deadline other => ?_⟩,h.sorted.sublist hsublist,fun other earlier task' hmem => ?_,
    fun other deadline task' hlookup => ?_,atEvery_snoc h.law hlaw⟩
  · by_cases heq : other=token
    · subst heq
      rw [lookup_erase]
      exact ⟨fun hmem => (hgone (mem_map.mpr ⟨_,hmem,rfl⟩)).elim,fun ⟨_,hnone⟩ => by cases hnone⟩
    · rw [lookup_erase_ne heq,←h.agree.agree,hother other deadline heq]
  · obtain hold|hnew := mem_append.mp hmem
    · exact h.fresh other earlier task' hold
    · exact (hmark other earlier task' (mem_singleton.mp hnew).symm).elim
  · dsimp only at hlookup
    by_cases heq : other=token
    · subst heq
      rw [lookup_erase] at hlookup
      cases hlookup
    · rw [lookup_erase_ne heq] at hlookup
      refine hfair other deadline task' heq ?_ (h.fair other deadline task' hlookup)
      exact (hother other deadline heq).mp ((h.agree.agree deadline other).mpr ⟨task',hlookup⟩)

theorem Inv.cancelTask (token : Token) : Inv (s.cancelTask token) := by
  have hran : ∀ other later task' now,(Mark.cancelled token : Mark τ)≠.ran other later task' now :=
    nofun
  have hlaw : Law s.history (.cancelled token) := nofun
  have hfair : ∀ other deadline task',other≠token → Fair s.history other deadline task' →
      Fair (s.history++[.cancelled token]) other deadline task' := by
    intro other deadline task' hne hfair
    refine hfair.snoc (fun heq => ?_) fun other later task' now heq => (hran other later task' now heq).elim
    cases heq
    exact hne rfl
  cases hlookup : s.tasks.lookup token with
  | none =>
    have hcancelled : s.cancelTask token={s with history := s.history++[.cancelled token]} := by
      unfold Timer.cancelTask
      dsimp only
      rw [hlookup]
    rw [hcancelled]
    refine ⟨⟨h.agree.nodup,h.agree.agree⟩,h.sorted,fun other earlier task' hmem => ?_,
      fun other deadline task' hother => ?_,
      atEvery_snoc h.law hlaw⟩
    · obtain hold|hnew := mem_append.mp hmem
      · exact h.fresh other earlier task' hold
      · cases mem_singleton.mp hnew
    · refine hfair other deadline task' ?_ (h.fair other deadline task' hother)
      rintro rfl
      cases hlookup.symm.trans hother
  | some entry =>
    obtain ⟨timePoint,task⟩ := entry
    have hcancelled : s.cancelTask token={s with
        timers := s.timers.erase (timePoint,token)
        tasks := s.tasks.erase token
        history := s.history++[.cancelled token]} := by
      unfold Timer.cancelTask
      dsimp only
      rw [hlookup]
    rw [hcancelled]
    have hmem := (h.agree.agree timePoint token).mpr ⟨task,hlookup⟩
    exact h.remove (perm_cons_erase hmem) erase_sublist nofun hlaw
      fun other deadline task' hne _ => hfair other deadline task' hne

theorem Inv.executeTimer (now : TimePoint) : Inv (s.executeTimer now) := by
  unfold Timer.executeTimer
  cases htimers : s.timers with
  | nil =>
    dsimp only
    rw [←htimers]
    exact h.worker .ending
  | cons timer =>
    obtain ⟨nextTime,token⟩ := timer
    dsimp only
    by_cases hwait : now<nextTime
    · rw [if_pos hwait,←htimers]
      exact h.worker .waiting
    · rw [if_neg hwait]
      obtain ⟨task,hlookup⟩ := (h.agree.agree nextTime token).mp (by
        rw [htimers]
        exact mem_cons_self)
      rw [hlookup]
      have hsorted := h.sorted
      rw [htimers] at hsorted
      have hrunning := h.fair token nextTime task hlookup
      refine h.remove (.of_eq htimers) ?_ nofun ?_ ?_
      · rw [htimers]
        exact sublist_cons_self _ _
      · intro other timePoint task' now' heq
        cases heq
        exact ⟨hrunning,Int.not_lt.mp hwait⟩
      · intro other deadline task' hne hmem hfair
        refine hfair.snoc nofun fun other' later task'' now' heq => ?_
        cases heq
        exact ⟨Ne.symm hne,rel_of_pairwise_cons hsorted hmem⟩

theorem inv_step {event : Event τ} (hstep : Step s event t) : Inv t := by
  obtain ⟨-,rfl⟩ := hstep
  cases event with
  | submitTask now delay task => exact h.submitTask (now+delay) task
  | cancelTask token => exact h.cancelTask token
  | destroy =>
    have hempty : Agree (create : Timer τ) := inv_create.agree
    exact ⟨⟨hempty.nodup,hempty.agree⟩,List.Pairwise.nil,h.fresh,nofun,h.law⟩
  | executeTimer now => exact h.executeTimer now
  | wake => exact h.worker .looping
  | hasNextLocked => exact ⟨⟨h.agree.nodup,h.agree.agree⟩,h.sorted,h.fresh,h.fair,h.law⟩

end

/-- In every run the two tables describe the same tasks, and a task that was run had been submitted, not run
before and not cancelled, and went before none that had waited with it for less long. -/
theorem tasks_in_order {trace : List (Event τ)} (hrun : Run Step create trace s) : Agree s ∧ AtEvery Law s.history := by
  have h : Inv s := hrun.invariant Inv inv_create fun _ _ _ h hstep => inv_step h hstep
  exact ⟨h.agree,h.law⟩

/-- Three tasks, two of them for the same time; one is cancelled. -/
def threeTasks : List (Event String) :=
  [.submitTask 0 20 "late",.executeTimer 0,.submitTask 1 9 "early",.submitTask 2 8 "cancelled",.cancelTask 2,.wake,
    .executeTimer 20,.executeTimer 20]

/-- The other two are run, the later one last. -/
theorem tasks_in_order_three : ∃ s : Timer String,Run Step create threeTasks s ∧
      s.history=[.submitted 0 20 "late",.submitted 1 10 "early",.submitted 2 10 "cancelled",.cancelled 2,
        .ran 1 10 "early" 20,.ran 0 20 "late" 20] ∧ Agree s ∧ AtEvery Law s.history := by
  have hpossible : canFollow (fun (s : Timer String) event => decide (Possible s event)) Timer.next create threeTasks =
      true := by decide
  have hrun := Run.follow step_next Run.refl hpossible
  exact ⟨_,hrun,by decide,tasks_in_order hrun⟩

end AlexaClientSDK.MultiTimer
