import Mathlib.Algebra.BigOperators.Intervals
import AlexaClientSDK.ExecutorLocks

/-!
# The threads of the executor come to rest

Left to themselves the threads make finitely many steps. An entry of the queue is worth more than a round of the loop of
`TaskThread::run`, and a worker that has found the queue empty only leaves.
-/

namespace AlexaClientSDK.ExecutorProgress

open Nat Finset Function LabelledRuns Executor ExecutorLocks

/-- What a worker has left to do, when the queue is empty or not. -/
def rank (empty : Bool) : Stage → ℕ
  | .waiting | .given .other | .busy => 0
  | .returning => 1
  | .left => 2
  | .leave => 3
  | .next => 4
  | .runs _ => 5
  | .ready => if empty then 5 else 2
  | .loop => if empty then 6 else 3
  | .given .executor => 7

/-- What a `pushTo` that starts a thread has left to do. -/
def pushingRank : Option Pushing → ℕ
  | none => 0
  | some (.obtained _) => 8
  | some .starting => 9

def work (s : System) : ℕ :=
  10*s.queue.length+pushingRank s.pushing + ∑ id∈range s.created,rank s.queue.isEmpty (s.stage id)

theorem sum_change {n id : ℕ} {f g : ℕ → ℕ} (hid : id<n) (hother : ∀ j,j≠id → g j=f j) :
    ∑ j∈range n,g j+f id = ∑ j∈range n,f j+g id := by
  have hmem : id∈range n := mem_range.mpr hid
  have hrest : ∑ j∈(range n).erase id,g j = ∑ j∈(range n).erase id,f j :=
    sum_congr rfl fun j hj => hother j (ne_of_mem_erase hj)
  rw [←add_sum_erase _ f hmem,←add_sum_erase _ g hmem,hrest]
  omega

variable {s s' : System} {id : ℕ} {stage : Stage}

theorem work_move (hcreated : id<s.created) (hqueue : s'.queue=s.queue)
    (hknown : s'.created=s.created) (hstage : s'.stage=update s.stage id stage) :
    work s'+pushingRank s.pushing+rank s.queue.isEmpty (s.stage id) =
      work s+pushingRank s'.pushing+rank s.queue.isEmpty stage := by
  have hsum := sum_change (f := fun j => rank s.queue.isEmpty (s.stage j))
    (g := fun j => rank s.queue.isEmpty (s'.stage j)) hcreated
    (fun j hj => by rw [hstage,update_of_ne hj])
  rw [hstage,update_self] at hsum
  unfold work
  rw [hqueue,hknown,hstage]
  omega

/-- Only the holder of the mutex is in the loop of `TaskThread::run`. -/
theorem rank_eq_of_not_inside (hinside : inside stage=false) (empty empty' : Bool) :
    rank empty stage=rank empty' stage := by
  cases stage with
  | loop => cases hinside
  | ready => cases hinside
  | given user =>
    cases user with
    | executor => rfl
    | other => rfl
  | _ => rfl

def Internal : System → Event → System → Prop := Guarded Step fun _ event => event.isInternal=true

section

variable (h : Locked s)
include h

/-- One worker goes on, and no thread is started meanwhile. -/
theorem work_lt (hwaiting : s.stage id≠.waiting) (hqueue : s'.queue=s.queue) (hknown : s'.created=s.created)
    (hstage : s'.stage=update s.stage id stage) (hpushing : s'.pushing=s.pushing)
    (hrank : rank s.queue.isEmpty stage<rank s.queue.isEmpty (s.stage id)) : work s'<work s := by
  have hmove := work_move (h.created hwaiting) hqueue hknown hstage
  rw [hpushing] at hmove
  omega

theorem work_obtainWorker : work s.obtainWorker.1=work s := by
  rcases obtainWorker_cases s with ⟨_,hobtained⟩|⟨id,pool,_,hobtained⟩
  · rw [hobtained]
    unfold work
    rw [sum_range_succ,h.fresh s.created (le_refl _)]
    rfl
  · rw [hobtained]
    rfl

theorem work_startThread (starts : s.pushing=some .starting) : work s.startThread<work s := by
  have hobtained := work_obtainWorker h
  have hpushing : s.obtainWorker.1.pushing=s.pushing := by
    rcases obtainWorker_cases s with ⟨_,hobtained⟩|⟨id,pool,_,hobtained⟩
    · rw [hobtained]
    · rw [hobtained]
  unfold work at hobtained ⊢
  unfold System.startThread
  rw [hpushing,starts] at hobtained
  dsimp only [pushingRank] at hobtained ⊢
  rw [starts]
  dsimp only
  omega

theorem work_pop (pops : s.stage id=.ready) : work (s.pop id)<work s := by
  have hcreated : id<s.created := h.created (by rw [pops]; intro heq; cases heq)
  unfold System.pop
  cases hqueue : s.queue with
  | nil =>
    refine work_lt h (by rw [pops]; intro heq; cases heq) rfl rfl rfl rfl ?_
    rw [pops,hqueue]
    decide
  | cons job queue =>
    have hother : ∀ j,j≠id → inside (s.stage j)=false := by
      intro j hj
      by_contra hinside
      have hmutex := (h.holder j).mp ((Bool.not_eq_false _).mp hinside)
      rw [(h.holder id).mp (by rw [pops]; rfl)] at hmutex
      cases hmutex
      exact hj rfl
    have hsum := sum_change (f := fun j => rank s.queue.isEmpty (s.stage j))
      (g := fun j => rank queue.isEmpty ((s.move id (.runs job)).stage j)) hcreated ?_
    · have hself := stage_move_self s id (.runs job)
      have hready : rank (job::queue).isEmpty .ready=2 := rfl
      have hruns : rank queue.isEmpty (.runs job)=5 := rfl
      rw [hself,pops,hqueue,hready,hruns] at hsum
      unfold work
      rw [hqueue,List.length_cons]
      dsimp only [System.move] at hsum ⊢
      omega
    · intro j hj
      have hsame := stage_move_of_ne s hj (.runs job)
      rw [hsame]
      exact rank_eq_of_not_inside (hother j hj) _ _

/-- Every step of the threads of the executor leaves less to do. -/
theorem work_step {event : Event} (hinternal : event.isInternal=true) (hstep : Step s event s') : work s'<work s := by
  cases hstep with
  | startThread starts => exact work_startThread h starts
  | giveWork obtained free =>
    rename_i id
    have hcreated := (h.owned id (h.obtained id obtained).1).2.2
    have hmove : work (s.giveWork id)+pushingRank s.pushing+rank s.queue.isEmpty (s.stage id) =
        work s+pushingRank (s.giveWork id).pushing+rank s.queue.isEmpty (.given .executor) :=
      work_move hcreated rfl rfl rfl
    rw [obtained] at hmove
    dsimp only [System.giveWork,pushingRank,rank] at hmove ⊢
    omega
  | beginRun given =>
    refine work_lt h (by rw [given]; intro heq; cases heq) rfl rfl rfl rfl ?_
    rw [given]
    cases s.queue.isEmpty with
    | true => decide
    | false => decide
  | checkStop loops =>
    rw [(locked_checkStop h loops).1]
    refine work_lt h (by rw [loops]; intro heq; cases heq) rfl rfl rfl rfl ?_
    rw [loops]
    cases s.queue.isEmpty with
    | true => decide
    | false => decide
  | pop pops => exact work_pop h pops
  | finishJob runs =>
    rename_i id job
    cases job with
    | task | flush =>
      refine work_lt h (by rw [runs]; intro heq; cases heq) rfl rfl rfl rfl ?_
      rw [runs]
      exact lt_succ_self _
  | hasNext looks =>
    refine work_lt h (by rw [looks]; intro heq; cases heq) rfl rfl rfl rfl ?_
    rw [looks]
    cases hqueue : s.queue with
    | nil => decide
    | cons =>
      rw [if_neg (List.cons_ne_nil _ _)]
      exact lt_succ_self _
  | leaveRun leaves =>
    refine work_lt h (by rw [leaves]; intro heq; cases heq) rfl rfl rfl rfl ?_
    rw [leaves]
    exact lt_succ_self _
  | unlock left =>
    refine work_lt h (by rw [left]; intro heq; cases heq) rfl rfl rfl rfl ?_
    rw [left]
    exact lt_succ_self _
  | workerReturns returns =>
    refine work_lt h (by rw [returns]; intro heq; cases heq) rfl rfl rfl rfl ?_
    rw [returns]
    exact lt_succ_self _
  | _ => cases hinternal

theorem length_le_work {events : List Event} (run : Run Internal s events s') : events.length≤work s := by
  refine le_of_add_right_le (run.length_le Locked work h ?_ ?_)
  · rintro s label t hs ⟨_,hstep⟩
    exact locked_step hs hstep
  · rintro s label t hs ⟨hinternal,hstep⟩
    exact work_step hs hinternal hstep

end

end AlexaClientSDK.ExecutorProgress
