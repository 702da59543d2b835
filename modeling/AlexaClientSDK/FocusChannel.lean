import Mathlib.Data.List.Basic

/-!
# A focus channel

`Channel` holds a list of activities, the newest in front, and the focus they share. An activity may wait behind another
one with patience, and is released when a timer expires. Activities are shared objects; their content type and the
mixing behaviour they were last told stand in a heap of their own.
-/

namespace AlexaClientSDK.FocusChannel

inductive FocusState
  | foreground
  | background
  | none
  deriving DecidableEq

inductive MixingBehavior
  | primary
  | mayDuck
  | mustPause
  | mustStop
  | undefined
  deriving DecidableEq

inductive ContentType
  | mixable
  | nonmixable
  | undefined
  | numContentType
  deriving DecidableEq

/-- The constant members of an activity, as `create` checks them. -/
structure Activity where
  interface : String
  patienceDuration : ℕ
  channelObserver : ℕ
  /-- `create` refuses an empty name. -/
  interface_ne : interface ≠ ""

/-- The constant members, with the flag of `readChannelConfiguration`. -/
structure ChannelConfiguration where
  name : String
  priority : ℕ
  isVirtual : Bool

/-- `Channel::State` without the time at which the channel became idle. -/
structure ChannelState where
  name : String
  focusState : FocusState
  interfaceName : String

variable {α : Type} [DecidableEq α]

/-- What an observer was told about its activity. -/
structure Notification (α : Type) where
  activity : α
  focus : FocusState
  behavior : MixingBehavior
  deriving DecidableEq

/-- With what their observers were told. -/
structure Objects (α : Type) where
  contentType : α → ContentType
  mixingBehavior : α → MixingBehavior
  /-- The calls of `onFocusChanged`, in order. -/
  notified : List (Notification α)

def Objects.notifyObserver (o : Objects α) (activity : α) (focus : FocusState)
    (behavior : MixingBehavior) : Objects α :=
  let overrideBehavior :=
    if o.mixingBehavior activity=.mustPause ∧ behavior=.mayDuck then .mustPause else behavior
  {o with
    mixingBehavior := Function.update o.mixingBehavior activity overrideBehavior
    notified := o.notified++[⟨activity,focus,overrideBehavior⟩]}

/-- The changing members. An active timer has the activity of its task. -/
structure Channel (α : Type) where
  focusState : FocusState
  interfaceName : String
  activities : List α
  activityUpdates : List ChannelState
  patienceTimer : Option α
  patienceInitiator : Option α
  patienceReceiver : Option α

def Channel.init : Channel α where
  focusState := .none
  interfaceName := ""
  activities := []
  activityUpdates := []
  patienceTimer := none
  patienceInitiator := none
  patienceReceiver := none

def Channel.isActive (c : Channel α) : Bool := !c.activities.isEmpty

def Channel.getPrimaryActivity (c : Channel α) : Option α := c.activities.head?

/-- The primary activity gets the focus, the others wait. -/
def notifyActivities (o : Objects α) (activities : List α) (behavior : MixingBehavior)
    (focusState : FocusState) : Objects α :=
  match activities with
  | [] => o
  | activity::others =>
    others.foldl (fun o other => o.notifyObserver other .background .mustPause)
      (o.notifyObserver activity focusState behavior)

section

variable (A : α → Activity) (config : ChannelConfiguration)

section

variable (c : Channel α)

def Channel.updateChannelInterface : Channel α :=
  match c.activities with
  | [] => {c with interfaceName := ""}
  | activity::_ => {c with interfaceName := (A activity).interface}

def Channel.addToChannelUpdates (interfaceName : String) (focusState : FocusState) : Channel α :=
  if c.interfaceName = "" then c
  else if config.isVirtual then c
  else {c with activityUpdates := c.activityUpdates++[⟨config.name,focusState,interfaceName⟩]}

section

variable (o : Objects α)

namespace Channel

/-- The primary activity was last told another mixing behaviour. -/
def mixingBehaviorChanged (behavior : MixingBehavior) : Bool :=
  match c.getPrimaryActivity with
  | none => false
  | some activity => o.mixingBehavior activity≠behavior

def setFocus (focus : FocusState) (behavior : MixingBehavior) (forceUpdate : Bool) : Bool × Channel α × Objects α :=
  let focusChanged := decide (c.focusState≠focus)
  if !forceUpdate && !focusChanged && !c.mixingBehaviorChanged o behavior then (false,c,o)
  else
    let c := {c with focusState := focus}
    let c := c.addToChannelUpdates config c.interfaceName focus
    (true,c,notifyActivities o c.activities behavior focus)

/-- The part of `removeActivityHelperLocked` that stops the timer. -/
def stopPatienceFor (activity : α) : Channel α :=
  if c.patienceTimer.isSome ∧ (c.patienceInitiator=some activity ∨ c.patienceReceiver=some activity) then
    {c with patienceTimer := none,patienceInitiator := none,patienceReceiver := none}
  else c

/-- `removeActivityHelperLocked`, for the first place of the activity. -/
def removeActivityHelper (activity : α) : Channel α × Objects α :=
  let isRemovingPatienceReceiver := decide (c.patienceReceiver=some activity)
  let c := c.stopPatienceFor activity
  let c :=
    if isRemovingPatienceReceiver then c
    else c.addToChannelUpdates config (A activity).interface .none
  ({c with activities := c.activities.erase activity}.updateChannelInterface A,
    o.notifyObserver activity .none .mustStop)

def releaseActivityLocked (activityToRelease : Option α) : Bool × Channel α × Objects α :=
  match activityToRelease with
  | none => (false,c,o)
  | some activity =>
    if activity∈c.activities then (true,c.removeActivityHelper A config o activity)
    else (false,c,o)

/-- The first activity that fits, and the state of the channel. -/
def releaseFirst (fits : α → Bool) : Bool × Channel α × Objects α :=
  match c.activities.find? fits with
  | none => (false,c,o)
  | some activity =>
    let (c,o) := c.removeActivityHelper A config o activity
    (true,c.addToChannelUpdates config c.interfaceName c.focusState,o)

/-- `releaseActivity` for an observer, which may be null. -/
def releaseActivityOf (observer : Option ℕ) : Bool × Channel α × Objects α :=
  match observer with
  | none => (false,c,o)
  | some observer => c.releaseFirst A config o fun activity => (A activity).channelObserver=observer

def releaseActivity (interfaceName : String) : Bool × Channel α × Objects α :=
  c.releaseFirst A config o fun activity => (A activity).interface=interfaceName

/-- It stops the timer of an earlier activity and releases the one that waited. -/
def endPatience : Channel α × Objects α :=
  if c.patienceTimer.isSome then
    let (_,c,o) := {c with patienceTimer := none}.releaseActivityLocked A config o c.patienceReceiver
    ({c with patienceReceiver := none},o)
  else (c,o)

def processPolicy (incoming current : α) : Channel α × Objects α :=
  if (A incoming).interface=(A current).interface then
    let (_,c,o) := c.releaseActivityLocked A config o (some current)
    (c,o)
  else
    let (c,o) := c.endPatience A config o
    if 0<(A incoming).patienceDuration then
      let c := c.addToChannelUpdates config (A current).interface .none
      ({c with
        patienceTimer := some current
        patienceInitiator := some incoming
        patienceReceiver := some current},o)
    else
      let (c,o) :=
        match c.patienceInitiator with
        | none => (c,o)
        | some initiator =>
          let (_,c,o) := c.releaseActivityLocked A config o (some initiator)
          ({c with patienceInitiator := none},o)
      let (_,c,o) := c.releaseActivityLocked A config o (some current)
      (c,o)

def setPrimaryActivity (activity : α) : Channel α × Objects α :=
  let (c,o) :=
    match c.activities with
    | [] => (c,o)
    | current::_ => c.processPolicy A config o activity current
  ({c with activities := activity::c.activities}.updateChannelInterface A,o)

/-- The expiry of the timer, which is no longer active then. -/
def patienceTimerCallback (activity : α) : Channel α × Objects α :=
  let (_,c,o) := c.releaseActivityLocked A config o (some activity)
  ({c with patienceTimer := none},o)

end Channel

end

end

end

end AlexaClientSDK.FocusChannel
