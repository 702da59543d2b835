import AlexaClientSDK.LabelledRuns

/-!
# A timer and its thread

The thread clears `m_stopping` and then `m_running`, under the lock of `stop` only where it was stopped. At the end of
its loop a `stop` between the two leaves the flag for the thread of the next start.
-/

namespace AlexaClientSDK

open LabelledRuns

/-- Where the timer thread stands. -/
inductive Timer.Phase
  | idle
  /-- `activate` has succeeded, and the thread is not yet created. -/
  | starting (maxCount : ℕ)
  | waiting (maxCount count : ℕ) (offSchedule : Bool)
  /-- It has left the wait, and calls the task next unless it is off schedule. -/
  | calling (maxCount count : ℕ) (offSchedule : Bool)
  | ending
  /-- `m_stopping` is cleared, under `m_waitMutex` or not, and `m_running` is not. -/
  | ended (locked : Bool)
  deriving DecidableEq

/-- The flags, with what is known of the last start. -/
structure Timer where
  m_running : Bool
  m_stopping : Bool
  phase : Timer.Phase
  /-- The task was not called, and there was no `stop`. -/
  owed : Bool
  /-- There was a `stop` before the delay elapsed. -/
  stoppedEarly : Bool

namespace Timer

/-- Of other threads, and of the timer thread or a creating `start`. -/
inductive Action
  | start (maxCount : ℕ)
  | stop
  | proceed (offSchedule : Bool)
  deriving DecidableEq

def FOREVER : ℕ := 0

def new : Timer := ⟨false,false,.idle,false,false⟩

/-- The delay of the last start has not elapsed. -/
def delayed : Phase → Bool
  | .starting _ | .waiting _ 0 _ => true
  | _ => false

/-- The next turn of the loop. -/
def loop (maxCount count : ℕ) (offSchedule : Bool) : Phase :=
  if maxCount=FOREVER ∨ count < maxCount then .waiting maxCount count offSchedule else .ending

/-- The state after a step, if it can be taken; a `start` that fails takes none. -/
def next (s : Timer) : Action → Option Timer
  | .start maxCount => if s.m_running then none else some ⟨true,s.m_stopping,.starting maxCount,true,false⟩
  | .stop =>
    if s.phase=.ended true then none
    else if s.m_running then some ⟨true,true,s.phase,false,s.stoppedEarly || delayed s.phase⟩
    else some s
  | .proceed late =>
    match s.phase with
    | .idle => none
    | .starting maxCount => some {s with phase := loop maxCount 0 false}
    | .waiting maxCount count offSchedule =>
      if s.m_stopping then some {s with m_stopping := false,phase := .ended true}
      else some {s with phase := .calling maxCount count offSchedule}
    | .calling maxCount count offSchedule =>
      some {s with phase := loop maxCount (count+1) late,owed := s.owed && offSchedule}
    | .ending => some {s with m_stopping := false,phase := .ended false}
    | .ended _ => some {s with m_running := false,phase := .idle}

def Step (s : Timer) (a : Action) (t : Timer) : Prop := s.next a=some t

/-- A `stop` does not come between the two flags at the end of the loop. -/
def Clear (s : Timer) : Action → Prop
  | .stop => s.phase≠.ended false
  | _ => True

/-- Where no thread runs, the flag is false and the last start has called its task or was stopped; the task is
called only when the delay elapsed without a `stop`; and a thread can go on. -/
structure Kept (s : Timer) : Prop where
  flag : s.phase=.idle → s.m_stopping=false
  called : s.phase=.idle → s.owed=false
  heeded : ∀ maxCount count offSchedule,s.phase=.calling maxCount count offSchedule → s.stoppedEarly=false
  goesOn : s.phase≠.idle → ∃ t,s.Step (.proceed false) t

/-- What the flags are in each phase. -/
def Inv (s : Timer) : Prop :=
  match s.phase with
  | .idle => s.m_running=false ∧ s.m_stopping=false ∧ s.owed=false
  | .starting _ => s.m_running=true ∧ s.m_stopping=s.stoppedEarly ∧ s.owed=!s.stoppedEarly
  | .waiting _ 0 offSchedule =>
    s.m_running=true ∧ offSchedule=false ∧ s.m_stopping=s.stoppedEarly ∧ s.owed=!s.stoppedEarly
  | .calling _ 0 offSchedule => s.m_running=true ∧ offSchedule=false ∧ s.stoppedEarly=false
  | .waiting _ _ _ | .calling _ _ _ | .ending => s.m_running=true ∧ s.stoppedEarly=false ∧ s.owed=false
  | .ended _ => s.m_running=true ∧ s.m_stopping=false ∧ s.owed=false

variable {s t : Timer}

theorem inv_new : Inv new := ⟨rfl,rfl,rfl⟩

/-- A `stop` is noted by the thread unless it comes between the two flags. -/
theorem inv_stop (h : Inv s) (hclear : s.phase≠.ended false) (hstep : s.Step .stop t) : Inv t := by
  obtain ⟨running,stopping,phase,owed,early⟩ := s
  unfold Step next at hstep
  dsimp only at hstep
  split at hstep
  · cases hstep
  · next hlocked =>
    split at hstep
    · next hrunning =>
      cases hstep
      cases phase with
      | idle => exact absurd (h.1.symm.trans hrunning) Bool.false_ne_true
      | starting => simp [Inv,delayed]
      | waiting _ count | calling _ count => cases count <;> simp_all [Inv,delayed]
      | ending => simp_all [Inv,delayed]
      | ended locked => cases locked <;> contradiction
    · cases hstep
      exact h

/-- After the first turn of the loop nothing is owed. -/
theorem inv_loop (maxCount count : ℕ) (offSchedule stopping : Bool) :
    Inv ⟨true,stopping,loop maxCount (count+1) offSchedule,false,false⟩ := by
  unfold loop
  split <;> exact ⟨rfl,rfl,rfl⟩

theorem inv_proceed (h : Inv s) {late : Bool} (hstep : s.Step (.proceed late) t) : Inv t := by
  obtain ⟨running,stopping,phase,owed,early⟩ := s
  unfold Step next at hstep
  cases phase with
  | idle => cases hstep
  | starting maxCount =>
    cases hstep
    have hloop : loop maxCount 0 false=.waiting maxCount 0 false := if_pos (by unfold FOREVER; omega)
    rw [hloop]
    exact ⟨h.1,rfl,h.2⟩
  | waiting maxCount count =>
    dsimp only at hstep
    split at hstep <;> cases hstep <;> cases count <;> simp_all [Inv]
  | calling maxCount count offSchedule =>
    cases hstep
    cases count with
    | zero =>
      obtain ⟨rfl,rfl,rfl⟩ : running=true ∧ offSchedule=false ∧ early=false := h
      rw [Bool.and_false]
      exact inv_loop maxCount 0 late stopping
    | succ count =>
      obtain ⟨rfl,rfl,rfl⟩ : running=true ∧ early=false ∧ owed=false := h
      exact inv_loop maxCount (count+1) late stopping
  | ending =>
    cases hstep
    exact ⟨h.1,rfl,h.2.2⟩
  | ended =>
    cases hstep
    exact ⟨rfl,h.2⟩

/-- Only an idle timer does not run. -/
theorem idle_of_inv (h : Inv s) (hrunning : s.m_running=false) : s.phase=.idle := by
  obtain ⟨running,stopping,phase,owed,early⟩ := s
  obtain rfl : running=false := hrunning
  cases phase with
  | idle => rfl
  | waiting _ count | calling _ count => cases count <;> exact absurd h.1 Bool.false_ne_true
  | _ => exact absurd h.1 Bool.false_ne_true

/-- What one step preserves. -/
theorem inv_step (h : Inv s) {a : Action} (hclear : s.Clear a) (hstep : s.Step a t) : Inv t := by
  cases a with
  | stop => exact inv_stop h hclear hstep
  | proceed => exact inv_proceed h hstep
  | start =>
    unfold Step next at hstep
    dsimp only at hstep
    split at hstep
    · cases hstep
    · next hidle =>
      cases hstep
      have hphase := idle_of_inv h (Bool.not_eq_true _ ▸ hidle)
      unfold Inv at h
      rw [hphase] at h
      exact ⟨rfl,h.2.1,rfl⟩

theorem kept_of_inv (h : Inv s) : Kept s := by
  obtain ⟨running,stopping,phase,owed,early⟩ := s
  refine ⟨?_,?_,?_,?_⟩
  · rintro rfl
    exact h.2.1
  · rintro rfl
    exact h.2.2
  · rintro maxCount count offSchedule rfl
    cases count with
    | zero => exact h.2.2
    | succ => exact h.2.1
  · intro hphase
    cases phase with
    | idle => exact absurd rfl hphase
    | waiting => cases stopping <;> exact ⟨_,rfl⟩
    | _ => exact ⟨_,rfl⟩

/-- No start is lost if no `stop` comes between the two flags. -/
theorem kept_of_run {trace : List Action} (run : Run (Guarded Step Clear) new trace s) : Kept s :=
  kept_of_inv (Run.invariant Inv run inv_new fun _ _ _ h hstep => inv_step h hstep.1 hstep.2)

/-- The state after a step that can be taken. -/
def after (s : Timer) (a : Action) : Timer := (s.next a).getD s

theorem run_of_canFollow {trace : List Action} (h : canFollow (fun s a => (s.next a).isSome) after s trace=true) :
    Run Step s trace (trace.foldl after s) := by
  refine Run.follow (fun s a hsome => ?_) Run.refl h
  obtain ⟨t,ht⟩ := Option.isSome_iff_exists.mp hsome
  unfold Step after
  rw [ht,Option.getD_some]

/-- A one-shot start, a step of its thread after the other. -/
def once : List Action := [.start 1,.proceed false,.proceed false,.proceed false]

/-- It calls its task. -/
theorem kept_of_run_once : Kept (once.foldl after new) :=
  kept_of_run ((run_of_canFollow (by decide)).guard fun a ha s => by
    cases a with
    | stop => exact absurd ha (by decide)
    | _ => trivial)

/-- A `stop` between the flags is for the next start. -/
theorem start_lost : ∃ (trace : List Action) (s t : Timer),Run Step new trace s ∧ s.phase=.idle ∧ s.m_stopping=true ∧
    Run Step s once t ∧ t.phase=.idle ∧ t.owed=true :=
  ⟨once++[.proceed false,.stop,.proceed false],_,_,run_of_canFollow (by decide),by decide,by decide,
    run_of_canFollow (by decide),by decide,by decide⟩

end Timer

end AlexaClientSDK
