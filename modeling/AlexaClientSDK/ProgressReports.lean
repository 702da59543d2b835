import AlexaClientSDK.LabelledRuns
import AlexaClientSDK.ProgressTimer

/-!
# The reports of a progress timer

The thread of the timer asks for the position of the playback and reports what is due there, one target in each turn,
under the lock of the state. A call that leaves `RUNNING` waits for its end. The interval is not updated here.
-/

namespace AlexaClientSDK.ProgressReports

open List LabelledRuns ProgressTimer

inductive Report
  | delayElapsed
  | intervalElapsed
deriving DecidableEq

/-- Where the thread waits: it has not entered the loop, it has asked for the progress, or it lets some time pass. -/
inductive Place
  | fresh
  | asked
  | asleep (timeout : ℤ)

/-- What the last `init` has kept of its arguments. -/
structure Plan where
  m_delay : ℤ
  m_interval : ℤ
  m_offset : ℤ

structure Reporting where
  timer : ProgressTimer
  m_gotProgress : Bool
  thread : Option Place
  plan : Plan
  /-- What was reported since the last `init`, with its targets. -/
  told : List (ℤ × Report)
  /-- The furthest position since then. -/
  furthest : ℤ

open Reporting

def Reporting.new : Reporting := ⟨.new,false,none,⟨getNoDelay,getNoInterval,0⟩,[],0⟩

/-- The first multiple of the interval behind a position. -/
def multipleBehind (interval position : ℤ) : ℤ := interval*(position.tdiv interval+1)

section

variable (s : ProgressTimer)

def reports : List (ℤ × Report) :=
  if s.m_target=s.m_delay then
    (s.m_target,.delayElapsed)::
      if s.m_interval≠getNoInterval ∧ s.m_target.tmod s.m_interval=0 then [(s.m_target,.intervalElapsed)] else []
  else [(s.m_target,.intervalElapsed)]

def updateTargetLocked : ProgressTimer × Bool :=
  if s.m_progress<s.m_target then (s,true)
  else if s.m_delay=getNoDelay then
    if s.m_interval=getNoInterval then (s,false)
    else ({s with m_target := s.m_target+s.m_interval},true)
  else if s.m_interval=getNoInterval then
    if s.m_target=s.m_delay then ({s with m_delay := getNoDelay},false)
    else ({s with m_target := s.m_delay},true)
  else if s.m_target<s.m_delay then ({s with m_target := min (s.m_target+s.m_interval) s.m_delay},true)
  else if s.m_target=s.m_delay then
    ({s with m_target := multipleBehind s.m_interval s.m_delay},true)
  else ({s with m_target := s.m_target+s.m_interval},true)

end

namespace Reporting

variable (s : Reporting)

def init (delay interval offset : ℤ) : Reporting :=
  let timer := s.timer.init true delay interval offset
  -- a failure leaves the state
  if timer.m_state=s.timer.m_state then s
  else {s with
    timer := timer
    plan := ⟨timer.m_delay,timer.m_interval,offset⟩
    told := []
    furthest := offset}

def startThread (timer : ProgressTimer) : Reporting := {s with timer := timer,thread := some .fresh}

def start : Reporting :=
  match s.timer.setState .RUNNING with
  | none => s
  | some timer =>
    if timer.m_delay≠getNoDelay then
      s.startThread {timer with m_target :=
        if timer.m_interval≠getNoInterval then min timer.m_delay (multipleBehind timer.m_interval s.plan.m_offset)
          else timer.m_delay}
    else if timer.m_interval≠getNoInterval then
      s.startThread {timer with m_target := multipleBehind timer.m_interval s.plan.m_offset}
    else {s with timer := {timer with m_state := .IDLE,m_context := false}}

def pause : Reporting :=
  match s.timer.setState .PAUSED with
  | none => s
  | some timer => {s with timer := timer,thread := none}

def resume : Reporting :=
  match s.timer.setState .RUNNING with
  | none => s
  | some timer => s.startThread timer

def stop : Reporting :=
  if s.timer.m_state=.IDLE then s
  else {s with
    timer := {s.timer with
      m_state := .IDLE
      m_context := false
      m_delay := getNoDelay
      m_interval := getNoInterval
      m_target := 0}
    thread := none}

def onProgress (progress : ℤ) : Reporting :=
  {s with timer := {s.timer with m_progress := progress},m_gotProgress := true,furthest := max s.furthest progress}

/-- The beginning of a turn of the loop. -/
def ask : Reporting := {s with m_gotProgress := false,thread := some .asked}

/-- The rest of a turn at the target. -/
def report : Reporting :=
  let updated := updateTargetLocked s.timer
  let s := {s with told := s.told++reports s.timer,timer := updated.1}
  if updated.2 then s.ask else {s with thread := none}

/-- What the thread does up to the next place where it waits. -/
def proceed : Reporting :=
  match s.thread with
  | none => s
  | some .fresh =>
    if s.timer.m_delay=getNoDelay ∧ s.timer.m_interval=getNoInterval then {s with thread := none} else s.ask
  | some .asked =>
    if s.m_gotProgress then
      if s.timer.m_target≤ s.timer.m_progress then s.report
      else {s with thread := some (.asleep (s.timer.m_target-s.timer.m_progress))}
    else s
  | some (.asleep _) => s.ask

end Reporting

inductive Event
  | init (delay interval offset : ℤ)
  | start
  | pause
  | resume
  | stop
  | onProgress (progress : ℤ)
  | proceed

def Reporting.perform (s : Reporting) : Event → Reporting
  | .init delay interval offset => s.init delay interval offset
  | .start => s.start
  | .pause => s.pause
  | .resume => s.resume
  | .stop => s.stop
  | .onProgress progress => s.onProgress progress
  | .proceed => s.proceed

/-- From a position it is one interval, if there is any, to a number that an `int64_t` still holds. -/
def Room (interval position : ℤ) : Prop := interval=getNoInterval ∨ position+interval≤getNoDelay

instance (interval position : ℤ) : Decidable (Room interval position) := inferInstanceAs (Decidable (_ ∨ _))

/-- What a player does: what is paused is resumed and not started, numbers are what they stand for, and there is room
for the next target. -/
def Allowed (s : Reporting) : Event → Prop
  | .init delay interval offset => 0< interval ∧ (0≤offset ∧ offset<getNoDelay) ∧ delay≤getNoDelay ∧ Room interval offset
  | .start => s.timer.m_state≠.PAUSED
  | .resume => s.timer.m_state≠.INITIALIZED
  | .onProgress progress => (0≤progress ∧ progress<getNoDelay) ∧ Room s.timer.m_interval progress
  | _ => True

instance (s : Reporting) (event : Event) : Decidable (Allowed s event) :=
  match event with
  | .init delay interval offset => inferInstanceAs
      (Decidable (0< interval ∧ (0≤offset ∧ offset<getNoDelay) ∧ delay≤getNoDelay ∧ Room interval offset))
  | .start | .resume => inferInstanceAs (Decidable (_≠_))
  | .onProgress progress => inferInstanceAs
      (Decidable ((0≤progress ∧ progress<getNoDelay) ∧ Room s.timer.m_interval progress))
  | .pause | .stop | .proceed => inferInstanceAs (Decidable True)

/-- The numbers that the source forms before it keeps or compares one: the targets of `start` and of
`updateTargetLocked`, and the time-out of `mainLoop`. -/
def formed (s : Reporting) : List ℤ :=
  match s.timer.m_state with
  | .INITIALIZED =>
    if s.timer.m_interval=getNoInterval then [] else [multipleBehind s.timer.m_interval s.plan.m_offset]
  | .RUNNING =>
    if s.timer.m_target≤ s.timer.m_progress then
      if s.timer.m_interval=getNoInterval then []
      else if s.timer.m_delay≠getNoDelay ∧ s.timer.m_target=s.timer.m_delay then
        [multipleBehind s.timer.m_interval s.timer.m_delay]
      else [s.timer.m_target+s.timer.m_interval]
    else [s.timer.m_target-s.timer.m_progress]
  | .IDLE | .PAUSED | .STOPPING => []

def Step (s : Reporting) (event : Event) (t : Reporting) : Prop := s.perform event=t

/-- In the order of their targets, and the delay report first. -/
def Before (r r' : ℤ × Report) : Prop := r.1<r'.1 ∨ r.1=r'.1 ∧ r.2=.delayElapsed ∧ r'.2=.intervalElapsed

namespace Plan

variable (plan : Plan)

structure Valid : Prop where
  positive : 0<plan.m_interval
  offset : 0≤plan.m_offset
  delay : plan.m_delay≠getNoDelay → plan.m_offset≤plan.m_delay

/-- The delay report; an interval report at each multiple behind the offset, and with the delay report where that is at a
multiple. -/
def Expected : ℤ × Report → Prop
  | (target,.delayElapsed) => plan.m_delay≠getNoDelay ∧ target=plan.m_delay
  | (target,.intervalElapsed) => plan.m_interval≠getNoInterval ∧ plan.m_interval ∣ target ∧
      (plan.m_offset<target ∨ plan.m_delay≠getNoDelay ∧ target=plan.m_delay)

/-- What was told are the reports that are expected in front of a position, in order, and playback has reached them. -/
structure Faithful (told : List (ℤ × Report)) (furthest : ℤ) : Prop where
  ordered : told.Pairwise Before
  whole : ∃ bound,∀ r,r∈told ↔ plan.Expected r ∧ r.1<bound
  reached : ∀ r∈told,r.1≤furthest

/-- The target is that of the next report. -/
structure Aims (told : List (ℤ × Report)) (delay interval target : ℤ) : Prop where
  delay : delay=plan.m_delay
  interval : interval=plan.m_interval
  told : ∀ r,r∈told ↔ plan.Expected r ∧ r.1<target
  next : ∃ kind,plan.Expected (target,kind)

end Plan

variable {interval position : ℤ}

theorem multipleBehind_spec (hpositive : 0< interval) (hposition : 0≤position) :
    interval ∣ multipleBehind interval position ∧ position< multipleBehind interval position ∧
      ∀ other,interval ∣ other → position<other → multipleBehind interval position≤other := by
  have heq : multipleBehind interval position=interval*(position / interval)+interval := by
    rw [multipleBehind,Int.tdiv_eq_ediv_of_nonneg hposition,Int.mul_add,Int.mul_one]
  have hbelow := Int.mul_ediv_self_le (x := position) (k := interval) hpositive.ne'
  have habove := Int.lt_mul_ediv_self_add (x := position) hpositive
  refine ⟨Int.dvd_mul_right _ _,heq ▸ habove,fun other hother hbehind => ?_⟩
  have hle := Int.le_of_dvd (by omega) (Int.dvd_sub hother (Int.dvd_mul_right interval (position / interval)))
  omega

/-- It is not further than one interval behind the position. -/
theorem multipleBehind_le (hpositive : 0< interval) (hposition : 0≤position) :
    multipleBehind interval position≤position+interval := by
  have hbelow := Int.mul_ediv_self_le (x := position) (k := interval) hpositive.ne'
  rw [multipleBehind,Int.tdiv_eq_ediv_of_nonneg hposition,Int.mul_add,Int.mul_one]
  exact Int.add_le_add_right hbelow interval

section

variable {plan : Plan} {timer : ProgressTimer} {told : List (ℤ × Report)}

/-- The first target behind a position, or that of the delay report where this is still to come. -/
theorem next_target (hvalid : plan.Valid) (hsome : plan.m_interval≠getNoInterval)
    (hposition : plan.m_offset≤position) (target : ℤ)
    (htarget : plan.m_delay≠getNoDelay ∧ position≤plan.m_delay ∧
        target=min plan.m_delay (multipleBehind plan.m_interval position) ∨
      (plan.m_delay≠getNoDelay → plan.m_delay≤position) ∧ target=multipleBehind plan.m_interval position) :
    (∃ kind,plan.Expected (target,kind)) ∧ position< multipleBehind plan.m_interval position ∧
      ∀ r,plan.Expected r → position<r.1 → target≤r.1 := by
  obtain ⟨hdvd,hbehind,hfirst⟩ := multipleBehind_spec hvalid.positive (hvalid.offset.trans hposition)
  have hmultiple : plan.Expected (multipleBehind plan.m_interval position,.intervalElapsed) :=
    ⟨hsome,hdvd,.inl (hposition.trans_lt hbehind)⟩
  refine ⟨?_,hbehind,fun ⟨other,kind⟩ hother hless => ?_⟩
  · rcases htarget with ⟨hdelay,-,rfl⟩|⟨-,rfl⟩
    · rcases Int.le_total plan.m_delay (multipleBehind plan.m_interval position) with hle|hle
      · exact ⟨.delayElapsed,hdelay,Int.min_eq_left hle⟩
      · exact ⟨.intervalElapsed,(Int.min_eq_right hle).symm ▸ hmultiple⟩
    · exact ⟨.intervalElapsed,hmultiple⟩
  · cases kind with
    | delayElapsed =>
      obtain ⟨hdelay,rfl⟩ := hother
      rcases htarget with ⟨-,-,rfl⟩|⟨hlate,-⟩
      · exact Int.min_le_left ..
      · exact (Int.not_lt.mpr (hlate hdelay) hless).elim
    | intervalElapsed =>
      have hle := hfirst other hother.2.1 hless
      rcases htarget with ⟨-,-,rfl⟩|⟨-,rfl⟩
      · exact (Int.min_le_right ..).trans hle
      · exact hle

theorem mem_reports (haims : plan.Aims told timer.m_delay timer.m_interval timer.m_target)
    (hless : timer.m_target<getNoDelay) (r : ℤ × Report) :
    r∈reports timer ↔ plan.Expected r ∧ r.1=timer.m_target := by
  obtain ⟨target,kind⟩ := r
  obtain ⟨hdelay,hinterval,-,next,hnext⟩ := haims
  have hmultiple := Int.dvd_iff_tmod_eq_zero (a := timer.m_interval) (b := timer.m_target)
  unfold reports
  cases next with
  | delayElapsed | intervalElapsed => cases kind <;> grind [Plan.Expected]

theorem mem_told_report (haims : plan.Aims told timer.m_delay timer.m_interval timer.m_target)
    (hless : timer.m_target<getNoDelay) (r : ℤ × Report) :
    r∈told++reports timer ↔ plan.Expected r ∧ r.1≤timer.m_target := by
  rw [mem_append,haims.told r,mem_reports haims hless r,←and_or_left,←Int.le_iff_lt_or_eq]

theorem ordered_reports : (reports timer).Pairwise Before := by
  unfold reports
  split
  · split
    · exact pairwise_pair.mpr (show Before _ _ from .inr ⟨rfl,rfl,rfl⟩)
    · exact pairwise_singleton ..
  · exact pairwise_singleton ..

/-- Behind a target that was reached, the next one is that of the next report, if there is any. -/
theorem updateTargetLocked_cases (hvalid : plan.Valid)
    (haims : plan.Aims told timer.m_delay timer.m_interval timer.m_target) (hreached : timer.m_target≤timer.m_progress) :
    updateTargetLocked timer=({timer with m_delay := getNoDelay},false) ∧ timer.m_interval=getNoInterval ∨
    ∃ target,updateTargetLocked timer=({timer with m_target := target},true) ∧
      (∃ kind,plan.Expected (target,kind)) ∧ ∀ r,plan.Expected r → (r.1≤timer.m_target ↔ r.1<target) := by
  obtain ⟨hdelay,hinterval,-,kind,hnext⟩ := haims
  unfold updateTargetLocked
  rw [if_neg (Int.not_lt.mpr hreached)]
  by_cases hnone : timer.m_interval=getNoInterval
  · -- the target is that of the delay report
    cases kind with
    | intervalElapsed => exact (hnext.1 (hinterval.symm.trans hnone)).elim
    | delayElapsed =>
      obtain ⟨hdelayed,htarget⟩ := hnext
      refine .inl ⟨?_,hnone⟩
      rw [if_neg (hdelay ▸ hdelayed),if_pos hnone,if_pos (hdelay ▸ htarget)]
  have hoffset : plan.m_offset≤timer.m_target := by
    cases kind <;> grind [Plan.Expected,Plan.Valid]
  -- the sum is the next multiple wherever it is formed
  have hsum : ¬(timer.m_delay≠getNoDelay ∧ timer.m_target=timer.m_delay) →
      timer.m_target+timer.m_interval=multipleBehind plan.m_interval timer.m_target := by
    intro hother
    have hdvd : plan.m_interval ∣ timer.m_target := by
      cases kind <;> grind [Plan.Expected]
    rw [multipleBehind,Int.mul_add,Int.mul_tdiv_cancel' hdvd,Int.mul_one,hinterval]
  let target := if timer.m_delay≠getNoDelay ∧ timer.m_target<timer.m_delay then
    min timer.m_delay (multipleBehind plan.m_interval timer.m_target) else multipleBehind plan.m_interval timer.m_target
  obtain ⟨hexpected,hbehind,hfirst⟩ := next_target hvalid (hinterval ▸ hnone) hoffset target (by grind)
  refine .inr ⟨target,?_,hexpected,fun r hr => ⟨?_,?_⟩⟩
  · grind [multipleBehind]
  · grind
  · exact fun hless => Int.not_lt.mp fun hgt => Int.not_lt.mpr (hfirst r hr hgt) hless

end

variable {plan : Plan}

theorem Plan.Expected.nonneg {r : ℤ × Report} (h : plan.Expected r) (hvalid : plan.Valid) : 0≤r.1 := by
  obtain ⟨target,kind⟩ := r
  obtain ⟨hpositive,hoffset,hafter⟩ := hvalid
  cases kind <;> grind [Plan.Expected]

theorem Plan.Valid.faithful_nil (hvalid : plan.Valid) (furthest : ℤ) : plan.Faithful [] furthest :=
  ⟨.nil,⟨0,fun _ => ⟨nofun,fun h => (Int.not_lt.mpr (h.1.nonneg hvalid) h.2).elim⟩⟩,nofun⟩

/-- A timer is started or resumed from where it was initialized or paused. -/
theorem setState_running {timer running : ProgressTimer} (h : timer.setState .RUNNING=some running) :
    (timer.m_state=.INITIALIZED ∨ timer.m_state=.PAUSED) ∧ {timer with m_state := .RUNNING}=running := by
  simpa [setState,allowed] using h

/-- A timer is paused while it runs. -/
theorem setState_paused {timer paused : ProgressTimer} (h : timer.setState .PAUSED=some paused) :
    timer.m_state=.RUNNING ∧ {timer with m_state := .PAUSED}=paused := by
  simpa [setState,allowed] using h

variable {timer : ProgressTimer}

/-- A timer that is idle takes what `init` is given. -/
theorem init_of_idle (delay : ℤ) (offset : ℤ) (hidle : timer.m_state=.IDLE)
    (hsome : interval≠0) : timer.init true delay interval offset={timer with
      m_state := .INITIALIZED
      m_context := true
      m_delay := if offset≤delay then delay else getNoDelay
      m_interval := interval
      m_progress := offset} := by
  simp [ProgressTimer.init,setState,allowed,hidle,hsome]

/-- Any other refuses it. -/
theorem init_of_busy (delay interval offset : ℤ) (hbusy : timer.m_state≠.IDLE) :
    timer.init true delay interval offset=timer := by
  simp [ProgressTimer.init,setState,allowed,hbusy]

/-- What makes the numbers fit: the arguments of the last `init`, the position and the target. -/
structure InRange (plan : Plan) (timer : ProgressTimer) : Prop where
  delay : plan.m_delay≤getNoDelay
  offset : Room plan.m_interval plan.m_offset
  position : 0≤timer.m_progress ∧ Room timer.m_interval timer.m_progress
  target : timer.m_target≤getNoDelay

/-- Only the target and the position are concerned, and what the plan has given them. -/
theorem InRange.retarget {timer next : ProgressTimer} (h : InRange plan timer)
    (hprogress : next.m_progress=timer.m_progress) (hinterval : next.m_interval=timer.m_interval)
    (htarget : next.m_target≤getNoDelay) : InRange plan next := by
  refine ⟨h.delay,h.offset,?_,htarget⟩
  rw [hprogress,hinterval]
  exact h.position

/-- What the calls and the thread keep. -/
structure Inv (s : Reporting) : Prop where
  valid : s.plan.Valid
  faithful : s.plan.Faithful s.told s.furthest
  progress : s.timer.m_progress≤ s.furthest ∧ s.timer.m_progress<getNoDelay
  runs : s.thread≠none → s.timer.m_state=.RUNNING
  ready : s.timer.m_state=.INITIALIZED →
    s.told=[] ∧ s.timer.m_delay=s.plan.m_delay ∧ s.timer.m_interval=s.plan.m_interval
  live : s.timer.m_state=.RUNNING ∨ s.timer.m_state=.PAUSED →
    s.plan.Aims s.told s.timer.m_delay s.timer.m_interval s.timer.m_target ∨
      s.timer.m_delay=getNoDelay ∧ s.timer.m_interval=getNoInterval ∧ (s.thread=none ∨ s.thread=some .fresh)
  range : InRange s.plan s.timer

section

variable {s : Reporting} (hinv : Inv s)
include hinv

/-- Of a timer that was initialized, the first target is that of the first report. -/
theorem aims_start (hready : s.timer.m_state=.INITIALIZED) {target : ℤ}
    (htarget : s.timer.m_delay≠getNoDelay ∧ target=(if s.timer.m_interval≠getNoInterval then
        min s.timer.m_delay (multipleBehind s.timer.m_interval s.plan.m_offset) else s.timer.m_delay) ∨
      s.timer.m_delay=getNoDelay ∧ s.timer.m_interval≠getNoInterval ∧
        target=multipleBehind s.timer.m_interval s.plan.m_offset) :
    s.plan.Aims s.told s.timer.m_delay s.timer.m_interval target := by
  obtain ⟨htold,hdelay,hinterval⟩ := hinv.ready hready
  have hafter := hinv.valid.delay
  rw [hdelay,hinterval] at htarget
  suffices h : (∃ kind,s.plan.Expected (target,kind)) ∧ ∀ r,s.plan.Expected r → target≤r.1 from
    ⟨hdelay,hinterval,fun r => ⟨fun hr => (by rw [htold] at hr; cases hr),
      fun hr => (Int.not_lt.mpr (h.2 r hr.1) hr.2).elim⟩,h.1⟩
  by_cases hnone : s.plan.m_interval=getNoInterval
  · obtain ⟨hdelayed,rfl⟩ : s.plan.m_delay≠getNoDelay ∧ target=s.plan.m_delay := by grind
    refine ⟨⟨.delayElapsed,hdelayed,rfl⟩,fun ⟨other,kind⟩ hother => ?_⟩
    cases kind <;> grind [Plan.Expected]
  · obtain ⟨hexpected,-,hfirst⟩ := next_target hinv.valid hnone (Int.le_refl _) target (by grind)
    refine ⟨hexpected,fun ⟨other,kind⟩ hother => ?_⟩
    have hbehind := hfirst _ hother
    cases kind <;> grind [Plan.Expected]

/-- No number is formed that an `int64_t` does not hold. -/
theorem formed_fits {ms : ℤ} (hms : ms∈formed s) : 0 ≤ ms ∧ ms ≤ getNoDelay := by
  obtain ⟨hpositive,hoffset,-⟩ := hinv.valid
  unfold formed at hms
  split at hms
  next hready =>
    obtain ⟨-,-,hinterval⟩ := hinv.ready hready
    split at hms
    · cases hms
    next hsome =>
      obtain rfl := mem_singleton.mp hms
      rw [hinterval] at hsome ⊢
      have hle := multipleBehind_le hpositive hoffset
      obtain ⟨-,hbehind,-⟩ := multipleBehind_spec hpositive hoffset
      have hroom := hinv.range.offset.resolve_left hsome
      omega
  next hrunning =>
    have hposition := hinv.range.position.1
    have htarget := hinv.range.target
    split at hms
    next hreached =>
      split at hms
      · cases hms
      next hsome =>
        have haims := (hinv.live (.inl hrunning)).resolve_right fun h => hsome h.2.1
        obtain ⟨kind,hnext⟩ := haims.next
        have hnonneg := hnext.nonneg hinv.valid
        have hroom := hinv.range.position.2.resolve_left hsome
        rw [haims.interval] at hsome hroom hms
        split at hms
        next hdelay =>
          obtain rfl := mem_singleton.mp hms
          dsimp only at hnonneg
          rw [←hdelay.2]
          have hle := multipleBehind_le hpositive hnonneg
          obtain ⟨-,hbehind,-⟩ := multipleBehind_spec hpositive hnonneg
          omega
        · obtain rfl := mem_singleton.mp hms
          omega
    next hahead =>
      obtain rfl := mem_singleton.mp hms
      omega
  · cases hms
  · cases hms
  · cases hms

/-- The next target is one of those numbers, or that of the delay report. -/
theorem updateTargetLocked_fits (hrunning : s.timer.m_state=.RUNNING) (hreached : s.timer.m_target≤ s.timer.m_progress)
    (hdelay : s.timer.m_delay≤getNoDelay) : (updateTargetLocked s.timer).1.m_target≤getNoDelay := by
  have hsum (hsome : s.timer.m_interval≠getNoInterval)
      (hother : ¬(s.timer.m_delay≠getNoDelay ∧ s.timer.m_target=s.timer.m_delay)) :
      s.timer.m_target+s.timer.m_interval≤getNoDelay := by
    refine (formed_fits hinv ?_).2
    simp [formed,hrunning,hreached,hsome,hother]
  have hmultiple (hsome : s.timer.m_interval≠getNoInterval) (hdelayed : s.timer.m_delay≠getNoDelay)
      (hsame : s.timer.m_target=s.timer.m_delay) : multipleBehind s.timer.m_interval s.timer.m_delay≤getNoDelay := by
    refine (formed_fits hinv ?_).2
    rw [hsame] at hreached
    simp [formed,hrunning,hreached,hsome,hdelayed,hsame]
  have htarget := hinv.range.target
  unfold updateTargetLocked
  split
  · exact htarget
  · split
    next hnone =>
      split
      · exact htarget
      next hsome => exact hsum hsome fun h => h.1 hnone
    next hdelayed =>
      split
      · split
        · exact htarget
        · exact hdelay
      next hsome =>
        split
        · exact (Int.min_le_right ..).trans hdelay
        · split
          next hsame => exact hmultiple hsome hdelayed hsame
          next hother => exact hsum hsome fun h => hother h.2

/-- The thread reports at a target that was reached, and goes on or has no more target. -/
theorem inv_report (haims : s.plan.Aims s.told s.timer.m_delay s.timer.m_interval s.timer.m_target)
    (hreached : s.timer.m_target≤ s.timer.m_progress) (hruns : s.timer.m_state=.RUNNING) :
    Inv s.report := by
  obtain ⟨hvalid,hfaithful,⟨hfurthest,hprogress⟩,_,_,_,hrange⟩ := id hinv
  have hfits := updateTargetLocked_fits hinv hruns hreached (haims.delay ▸ hrange.delay)
  have hless := Int.lt_of_le_of_lt hreached hprogress
  have hreport := mem_reports haims hless
  have htold := mem_told_report haims hless
  have hfaithful : s.plan.Faithful (s.told++reports s.timer) s.furthest := by
    refine ⟨pairwise_append.mpr ⟨hfaithful.ordered,ordered_reports,fun a ha b hb => ?_⟩,
      ⟨s.timer.m_target+1,fun r => (htold r).trans (and_congr_right' Int.lt_add_one_iff.symm)⟩,fun r hr => ?_⟩
    · exact .inl (((haims.told a).mp ha).2.trans_eq ((hreport b).mp hb).2.symm)
    · exact (((htold r).mp hr).2.trans hreached).trans hfurthest
  unfold report
  rcases updateTargetLocked_cases hvalid haims hreached with ⟨heq,hnone⟩|⟨target,heq,hnext,hbehind⟩
  · rw [heq]
    exact ⟨hvalid,hfaithful,⟨hfurthest,hprogress⟩,fun _ => hruns,fun h => (nomatch hruns.symm.trans h),
      fun _ => .inr ⟨rfl,hnone,.inl rfl⟩,hrange.retarget rfl rfl hrange.target⟩
  · rw [heq] at hfits ⊢
    exact ⟨hvalid,hfaithful,⟨hfurthest,hprogress⟩,fun _ => hruns,fun h => (nomatch hruns.symm.trans h),
      fun _ => .inl ⟨haims.delay,haims.interval,fun r => (htold r).trans (and_congr_right (hbehind r)),hnext⟩,
      hrange.retarget rfl rfl hfits⟩

omit hinv in
theorem asked_of_asleep {timeout : ℤ} (hasleep : s.proceed.thread=some (.asleep timeout)) :
    s.thread=some .asked ∧ s.proceed.told=s.told := by
  unfold proceed report ask at *
  grind

/-- A turn asks again, or has nothing left to report at the position. -/
theorem none_missing (hasked : s.thread=some .asked) (hrests : s.proceed.thread≠some .asked) (r : ℤ × Report)
    (hexpected : s.plan.Expected r) (hless : r.1≤ s.timer.m_progress) : r∈ s.proceed.told := by
  have haims := (hinv.live (.inl (hinv.runs (by rw [hasked]; nofun)))).resolve_right fun h => (by simp [hasked] at h)
  revert hrests
  unfold proceed
  rw [hasked]
  dsimp only
  split
  · split
    next hreached =>
      unfold report
      rcases updateTargetLocked_cases hinv.valid haims hreached with ⟨heq,hnone⟩|⟨_,heq,-⟩
      · -- only the delay report was expected, and the target is its
        rw [heq]
        refine fun _ => (mem_told_report haims (Int.lt_of_le_of_lt hreached hinv.progress.2) r).mpr ⟨hexpected,?_⟩
        obtain ⟨kind,hnext⟩ := haims.next
        obtain ⟨target,kind'⟩ := r
        cases kind <;> cases kind' <;> grind [Plan.Expected,Plan.Aims]
      · rw [heq]
        exact fun h => (h rfl).elim
    next hahead => exact fun _ => (haims.told r).mpr ⟨hexpected,Int.lt_of_le_of_lt hless (Int.not_le.mp hahead)⟩
  · exact fun h => (h hasked).elim

theorem inv_proceed : Inv s.proceed := by
  obtain ⟨hvalid,hfaithful,hprogress,hruns,hready,hlive,hrange⟩ := id hinv
  unfold proceed
  split
  · exact hinv
  next hthread =>
    have hrunning := hruns (by rw [hthread]; nofun)
    split
    next hnone =>
      exact ⟨hvalid,hfaithful,hprogress,fun _ => hrunning,hready,fun _ => .inr ⟨hnone.1,hnone.2,.inl rfl⟩,hrange⟩
    next hsome =>
      exact ⟨hvalid,hfaithful,hprogress,fun _ => hrunning,hready,
        fun h => .inl ((hlive h).resolve_right fun h => hsome ⟨h.1,h.2.1⟩),hrange⟩
  next hthread =>
    have hrunning := hruns (by rw [hthread]; nofun)
    have haims := (hlive (.inl hrunning)).resolve_right fun h => (by simp [hthread] at h)
    split
    · split
      next hreached => exact inv_report hinv haims hreached hrunning
      · exact ⟨hvalid,hfaithful,hprogress,fun _ => hrunning,hready,fun _ => .inl haims,hrange⟩
    · exact hinv
  next hthread =>
    have hrunning := hruns (by rw [hthread]; nofun)
    have haims := (hlive (.inl hrunning)).resolve_right fun h => (by simp [hthread] at h)
    exact ⟨hvalid,hfaithful,hprogress,fun _ => hrunning,hready,fun _ => .inl haims,hrange⟩

theorem inv_init {delay interval offset : ℤ} (hallowed : Allowed s (.init delay interval offset)) :
    Inv (s.init delay interval offset) := by
  obtain ⟨hpositive,⟨hoffset,hless⟩,hdelay,hroom⟩ := hallowed
  unfold Reporting.init
  by_cases hidle : s.timer.m_state=.IDLE
  · rw [init_of_idle delay offset hidle hpositive.ne',hidle]
    have hvalid : Plan.Valid ⟨if offset≤delay then delay else getNoDelay,interval,offset⟩ := by
      refine ⟨hpositive,hoffset,?_⟩
      split
      next hle => exact fun _ => hle
      · exact fun h => (h rfl).elim
    refine ⟨hvalid,hvalid.faithful_nil _,⟨Int.le_refl _,hless⟩,fun h => (nomatch hidle.symm.trans (hinv.runs h)),
      fun _ => ⟨rfl,rfl,rfl⟩,nofun,⟨?_,hroom,⟨hoffset,hroom⟩,hinv.range.target⟩⟩
    change (if offset≤delay then delay else getNoDelay)≤getNoDelay
    split
    · exact hdelay
    · exact Int.le_refl _
  · rw [init_of_busy delay interval offset hidle,if_pos rfl]
    exact hinv

theorem inv_start (hallowed : s.timer.m_state≠.PAUSED) : Inv s.start := by
  obtain ⟨hvalid,hfaithful,hprogress,_,_,_,hrange⟩ := id hinv
  unfold start
  split
  · exact hinv
  next timer heq =>
    obtain ⟨hready,rfl⟩ := setState_running heq
    have hready := hready.resolve_right hallowed
    have haims := @aims_start s hinv hready
    have hfits : s.timer.m_delay≤getNoDelay := (hinv.ready hready).2.1 ▸ hrange.delay
    split
    next hdelay =>
      refine ⟨hvalid,hfaithful,hprogress,fun _ => rfl,nofun,fun _ => .inl (haims (.inl ⟨hdelay,rfl⟩)),
        hrange.retarget rfl rfl ?_⟩
      change (if s.timer.m_interval≠getNoInterval then _ else _)≤getNoDelay
      split
      · exact (Int.min_le_left ..).trans hfits
      · exact hfits
    next hdelay =>
      split
      next hinterval =>
        refine ⟨hvalid,hfaithful,hprogress,fun _ => rfl,nofun,
          fun _ => .inl (haims (.inr ⟨not_not.mp hdelay,hinterval,rfl⟩)),hrange.retarget rfl rfl ?_⟩
        have hsome : s.timer.m_interval≠getNoInterval := hinterval
        have hmultiple : multipleBehind s.timer.m_interval s.plan.m_offset≤getNoDelay := by
          refine (formed_fits hinv ?_).2
          simp [formed,hready,hsome]
        exact hmultiple
      · exact ⟨hvalid,hfaithful,hprogress,fun h => (nomatch hready.symm.trans (hinv.runs h)),nofun,nofun,
          hrange.retarget rfl rfl hrange.target⟩

theorem inv_perform {event : Event} (hallowed : Allowed s event) : Inv (s.perform event) := by
  obtain ⟨hvalid,hfaithful,hprogress,hruns,hready,hlive,hrange⟩ := id hinv
  cases event with
  | init delay interval offset => exact inv_init hinv hallowed
  | start => exact inv_start hinv hallowed
  | pause =>
    change Inv s.pause
    unfold pause
    split
    · exact hinv
    next timer heq =>
      obtain ⟨hrunning,rfl⟩ := setState_paused heq
      exact ⟨hvalid,hfaithful,hprogress,fun h => (h rfl).elim,nofun,
        fun _ => (hlive (.inl hrunning)).imp_right fun h => ⟨h.1,h.2.1,.inl rfl⟩,hrange.retarget rfl rfl hrange.target⟩
  | resume =>
    change Inv s.resume
    unfold resume
    split
    · exact hinv
    next timer heq =>
      obtain ⟨hpaused,rfl⟩ := setState_running heq
      exact ⟨hvalid,hfaithful,hprogress,fun _ => rfl,nofun,
        fun _ => (hlive (.inr (hpaused.resolve_left hallowed))).imp_right fun h => ⟨h.1,h.2.1,.inr rfl⟩,
        hrange.retarget rfl rfl hrange.target⟩
  | stop =>
    change Inv s.stop
    unfold stop
    split
    · exact hinv
    · exact ⟨hvalid,hfaithful,hprogress,fun h => (h rfl).elim,nofun,fun h => (by rcases h with h | h <;> cases h),
        ⟨hrange.delay,hrange.offset,⟨hrange.position.1,.inl rfl⟩,show 0≤getNoDelay by decide⟩⟩
  | onProgress progress =>
    exact ⟨hvalid,⟨hfaithful.ordered,hfaithful.whole,fun r hr => (hfaithful.reached r hr).trans (Int.le_max_left ..)⟩,
      ⟨Int.le_max_right ..,hallowed.1.2⟩,hruns,hready,hlive,
      ⟨hrange.delay,hrange.offset,⟨hallowed.1.1,hallowed.2⟩,hrange.target⟩⟩
  | proceed => exact inv_proceed hinv

end

theorem inv_new : Inv .new := by
  have hvalid : Plan.Valid ⟨getNoDelay,getNoInterval,0⟩ := ⟨by decide,by decide,by decide⟩
  exact ⟨hvalid,hvalid.faithful_nil _,⟨by decide,by decide⟩,fun h => (h rfl).elim,nofun,
    fun h => (by rcases h with h | h <;> cases h),⟨by decide,.inl rfl,⟨by decide,.inl rfl⟩,by decide⟩⟩

/-- Whatever is called and observed, the reports are those that are expected, in order; when the thread has nothing to
report at a position, none is missing there; and no number is formed that an `int64_t` does not hold. -/
theorem reports_faithful {trace : List Event} {s : Reporting} (run : Run (Guarded Step Allowed) .new trace s) :
    s.plan.Faithful s.told s.furthest ∧ (∀ timeout,s.proceed.thread=some (.asleep timeout) →
      ∀ r,s.plan.Expected r → r.1≤ s.timer.m_progress → r∈s.told) ∧ ∀ ms∈formed s,0 ≤ ms ∧ ms<2^63 := by
  -- every run keeps to what was asked for, and in the range of the numbers
  have hinv := run.invariant Inv inv_new fun s event t hinv ⟨hallowed,hstep⟩ => hstep ▸ inv_perform hinv hallowed
  refine ⟨hinv.faithful,fun timeout hasleep r hexpected hless => ?_,fun ms hms => ?_⟩
  · obtain ⟨hasked,htold⟩ := asked_of_asleep hasleep
    exact htold ▸ none_missing hinv hasked (by rw [hasleep]; nofun) r hexpected hless
  · obtain ⟨hnonneg,hfits⟩ := formed_fits hinv hms
    exact ⟨hnonneg,Int.lt_of_le_sub_one hfits⟩

/-- Playback is observed at 2300, and paused after the delay report. -/
def paused : List Event :=
  [.init 500 1000 0,.start,.proceed,.onProgress 2300,.proceed,.pause,.resume,.proceed,.onProgress 2300,.proceed,
    .onProgress 2300,.proceed]

theorem canFollow_paused :
    canFollow (fun s event => decide (Allowed s event)) perform .new paused=true := by decide

/-- The reports of a run with a pause. -/
theorem reports_faithful_paused : (paused.foldl perform .new).plan.Faithful
    [(500,.delayElapsed),(1000,.intervalElapsed),(2000,.intervalElapsed)] 2300 :=
  (reports_faithful (Run.follow (fun _ _ h => ⟨of_decide_eq_true h,rfl⟩) .refl canFollow_paused)).1

/-- The delay report, and an interval report at each multiple behind the offset. -/
def Plan.Due (plan : Plan) (r : ℤ × Report) : Prop := plan.Expected r ∧ (r.2=.intervalElapsed → plan.m_offset<r.1)

/-- No delay report is due at an offset that is a multiple of the interval. -/
def Plan.Separate (plan : Plan) : Prop :=
  plan.m_interval≠getNoInterval → plan.m_interval ∣ plan.m_offset → plan.m_delay≠plan.m_offset

/-- The due reports that were reached, each of them once and in order; after a turn that does not ask again none is
missing. -/
structure Exact (s : Reporting) : Prop where
  ordered : s.told.Pairwise Before
  due : ∀ r∈s.told,s.plan.Due r ∧ r.1≤ s.furthest
  whole : s.thread=some .asked → s.proceed.thread≠some .asked →
    ∀ r,s.plan.Due r → r.1≤ s.timer.m_progress → r∈ s.proceed.told

end AlexaClientSDK.ProgressReports
