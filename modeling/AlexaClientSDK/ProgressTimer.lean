import Mathlib.Algebra.Group.Int.Defs
import Mathlib.Order.Lattice

/-!
# The interval of a progress timer

`updateInterval` pauses the timer, changes the interval and resumes it. Whether the pause was refused is not looked at,
and the timer is resumed from wherever it was.
-/

namespace AlexaClientSDK

inductive ProgressTimer.State
  | IDLE
  | INITIALIZED
  | RUNNING
  | PAUSED
  | STOPPING
deriving DecidableEq

/-- What `updateInterval` reads and writes. -/
structure ProgressTimer where
  m_state : ProgressTimer.State
  /-- Whether a context is kept. -/
  m_context : Bool
  m_delay : ℤ
  m_interval : ℤ
  m_target : ℤ
  m_progress : ℤ

namespace ProgressTimer

def getNoDelay : ℤ := 2^63-1

def getNoInterval : ℤ := 2^63-1

def new : ProgressTimer := ⟨.IDLE,false,getNoDelay,getNoInterval,0,0⟩

section

variable (s : ProgressTimer)

def allowed (newState : State) : Bool :=
  match newState with
  | .IDLE => s.m_state=.RUNNING || s.m_state=.STOPPING
  | .INITIALIZED => s.m_state=.IDLE
  | .RUNNING => s.m_state=.INITIALIZED || s.m_state=.PAUSED
  | .PAUSED => s.m_state=.RUNNING
  | .STOPPING => true

/-- `setState`, none where it is not allowed. -/
def setState (newState : State) : Option ProgressTimer :=
  if s.allowed newState then some {s with m_state := newState} else none

def init (context : Bool) (delay interval offset : ℤ) : ProgressTimer :=
  if !context || interval=0 then s
  else match s.setState .INITIALIZED with
  | none => s
  | some s => {s with
      m_context := context
      m_interval := interval
      m_delay := if offset≤delay then delay else getNoDelay
      m_progress := offset}

/-- `pauseLocked`, after the thread has been joined. -/
def pauseLocked : ProgressTimer := (s.setState .PAUSED).getD s

/-- `resumeLocked`, before the thread is started. -/
def resumeLocked : ProgressTimer := (s.setState .RUNNING).getD s

/-- The first multiple of the interval behind the progress. -/
def nextMultiple : ℤ := s.m_interval*(s.m_progress.tdiv s.m_interval+1)

def updateInterval (newInterval : ℤ) : ProgressTimer :=
  if s.m_state=.IDLE ∨ s.m_context=false ∨ newInterval=0 ∨ newInterval=getNoInterval then s
  else
    let s := {s.pauseLocked with m_interval := newInterval}
    let m_target := if s.m_delay≠getNoDelay ∧ s.m_progress<s.m_delay then min s.m_delay s.nextMultiple
      else s.nextMultiple
    resumeLocked {s with m_target := m_target}

end

/-- A timer that is not started or paused is kept so where the update is refused. -/
def Refuses (s : ProgressTimer) (newInterval : ℤ) : Prop :=
  s.m_state=.INITIALIZED ∨ s.m_state=.PAUSED → s.m_context=false ∨ newInterval=0 ∨ newInterval=getNoInterval

/-- An update keeps the state exactly where it refuses the interval or the timer runs. -/
theorem updateInterval_keeps_iff (s : ProgressTimer) (newInterval : ℤ) :
    (s.updateInterval newInterval).m_state=s.m_state ↔ s.Refuses newInterval := by
  obtain ⟨state,context,delay,interval,target,progress⟩ := s
  unfold updateInterval Refuses
  split
  next hrefused =>
    refine ⟨fun _ hstate => hrefused.resolve_left ?_,fun _ => rfl⟩
    rintro hidle
    rcases hstate with hstate | hstate
    · cases hidle.symm.trans hstate
    · cases hidle.symm.trans hstate
  next hgoes =>
    obtain ⟨hbusy,hvalid⟩ := not_or.mp hgoes
    cases state with
    | IDLE => exact (hbusy rfl).elim
    | INITIALIZED => exact ⟨nofun,fun h => (hvalid (h (.inl rfl))).elim⟩
    | PAUSED => exact ⟨nofun,fun h => (hvalid (h (.inr rfl))).elim⟩
    | RUNNING | STOPPING => exact ⟨fun _ hstate => (nomatch hstate),fun _ => rfl⟩

/-- A timer that is not started is started by an update. -/
theorem update_starts_timer :
    ((new.init true 500 1000 0).updateInterval 2000).m_state≠(new.init true 500 1000 0).m_state := by
  decide

end ProgressTimer

end AlexaClientSDK
