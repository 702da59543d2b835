import Mathlib.Data.List.FinRange
import AlexaClientSDK.KeyedLists
import AlexaClientSDK.LabelledRuns
import AlexaClientSDK.FocusChannel

/-!
# The focus manager

A request for a channel is checked and captured when it is made, and carried out later as a task. Between tasks timers
expire and more requests are made, two of which go to the front of the queue. What such a request captured may be old
when its task runs.
-/

namespace AlexaClientSDK.FocusManager

open List KeyedLists FocusChannel

/-- With the constructor's unique names and priorities. -/
structure ChannelTable where
  entries : List ChannelConfiguration
  /-- `doesChannelNameExist` keeps names unique. -/
  names : (entries.map ChannelConfiguration.name).Nodup
  /-- `doesChannelPriorityExist` keeps priorities unique. -/
  priorities : (entries.map ChannelConfiguration.priority).Nodup

def ChannelTable.empty : ChannelTable := ⟨[],nodup_nil,nodup_nil⟩

def ChannelTable.doesChannelNameExist (t : ChannelTable) (name : String) : Prop :=
  name∈t.entries.map ChannelConfiguration.name

def ChannelTable.doesChannelPriorityExist (t : ChannelTable) (priority : ℕ) : Prop :=
  priority∈t.entries.map ChannelConfiguration.priority

instance (t : ChannelTable) (name : String) : Decidable (t.doesChannelNameExist name) :=
  inferInstanceAs (Decidable (name∈t.entries.map ChannelConfiguration.name))

instance (t : ChannelTable) (priority : ℕ) : Decidable (t.doesChannelPriorityExist priority) :=
  inferInstanceAs (Decidable (priority∈t.entries.map ChannelConfiguration.priority))

theorem nodup_map_snoc {β : Type} {f : ChannelConfiguration → β} {entries : List ChannelConfiguration}
    (config : ChannelConfiguration) (h : (entries.map f).Nodup) (hnew : f config∉entries.map f) :
    ((entries++[config]).map f).Nodup := by
  rw [map_append,nodup_append]
  refine ⟨h,nodup_singleton _,fun a ha b hb => ?_⟩
  rw [map_singleton,mem_singleton] at hb
  rintro rfl
  exact hnew (hb ▸ ha)

namespace ChannelTable

/-- `readChannelConfiguration`: a name or a priority that exists is skipped. -/
def readChannelConfiguration (t : ChannelTable) (isVirtual : Bool) : List (String × ℕ) → ChannelTable
  | [] => t
  | (name, priority) :: configurations =>
    if hname : t.doesChannelNameExist name then t.readChannelConfiguration isVirtual configurations
    else if hpriority : t.doesChannelPriorityExist priority then
      t.readChannelConfiguration isVirtual configurations
    else
      ChannelTable.readChannelConfiguration
        { entries := t.entries++[⟨name, priority, isVirtual⟩]
          names := nodup_map_snoc ⟨name, priority, isVirtual⟩ t.names hname
          priorities := nodup_map_snoc ⟨name, priority, isVirtual⟩ t.priorities hpriority }
        isVirtual configurations

/-- The channels of the constructor: real ones first, then virtual ones. -/
def ofConfigurations (channelConfigurations virtualChannelConfigurations : List (String × ℕ)) : ChannelTable :=
  (ChannelTable.empty.readChannelConfiguration false channelConfigurations).readChannelConfiguration
    true virtualChannelConfigurations

abbrev Ref (t : ChannelTable) : Type := Fin t.entries.length

def config (t : ChannelTable) (r : t.Ref) : ChannelConfiguration := t.entries.get r

def priority (t : ChannelTable) (r : t.Ref) : ℕ := (t.config r).priority

def getChannel (t : ChannelTable) (channelName : String) : Option t.Ref :=
  (finRange t.entries.length).find? fun r => (t.config r).name=channelName

theorem priority_injective (t : ChannelTable) : Function.Injective t.priority := by
  intro r r' heq
  have hget : ∀ r : t.Ref,t.priority r=(t.entries.map ChannelConfiguration.priority).get
      (r.cast (length_map _).symm) := by
    intro r
    simp [ChannelTable.priority,ChannelTable.config]
  rw [hget,hget,t.priorities.get_inj_iff] at heq
  exact Fin.cast_injective _ heq

end ChannelTable

/-- What a focus manager is made with, and the activities that exist. -/
structure Setting (α : Type) where
  table : ChannelTable
  /-- `getMixingBehavior` of `m_interruptModel`, which may be null. -/
  interruptModel : Option (String → ContentType → String → ContentType → MixingBehavior)
  activityTracker : Bool
  activity : α → Activity

variable {α : Type}

inductive Task (S : Setting α)
  | acquireChannel (channel : S.table.Ref) (activity : α)
  | releaseChannel (channel : S.table.Ref) (observer : Option ℕ)
  | stopForegroundActivity (channel : S.table.Ref) (interfaceName : String)
  | stopAllActivities (owners : List (S.table.Ref × String))

structure Manager (S : Setting α) where
  channels : S.table.Ref → Channel α
  objects : Objects α
  activeChannels : List S.table.Ref
  focusChanges : List (S.table.Ref × FocusState)
  tracked : List (List ChannelState)
  /-- The promises of `releaseChannel`, in the order in which they are kept. -/
  promises : List Bool
  executor : List (Task S)

section

variable {S : Setting α}

namespace Manager

/-- The constructor, over activities with any content types. -/
def init (contentType : α → ContentType) : Manager S where
  channels _ := .init
  objects := ⟨contentType,fun _ => .undefined,[]⟩
  activeChannels := []
  focusChanges := []
  tracked := []
  promises := []
  executor := []

section

variable (s : Manager S)

def setChannel (r : S.table.Ref) (c : Channel α) (o : Objects α) : Manager S :=
  {s with channels := Function.update s.channels r c,objects := o}

@[simp]
theorem setChannel_self (r : S.table.Ref) (c : Channel α) (o : Objects α) : (s.setChannel r c o).channels r=c := by
  dsimp only [Manager.setChannel]
  rw [Function.update_self]

theorem setChannel_of_ne {r r' : S.table.Ref} (c : Channel α) (o : Objects α)
    (hne : r'≠r) : (s.setChannel r c o).channels r'=s.channels r' := by
  dsimp only [Manager.setChannel]
  rw [Function.update_of_ne hne]

def getHighestPriorityActiveChannel : Option S.table.Ref :=
  s.activeChannels.head?

end

variable [DecidableEq α]

def setChannelFocus (s : Manager S) (r : S.table.Ref) (focus : FocusState)
    (behavior : MixingBehavior) (forceUpdate : Bool) : Manager S :=
  match (s.channels r).setFocus (S.table.config r) s.objects focus behavior forceUpdate with
  | (false,_,_) => s
  | (true,c,o) => {s.setChannel r c o with focusChanges := s.focusChanges++[(r,focus)]}

def getMixingBehavior (s : Manager S) (lowPrioChannel highPrioChannel : S.table.Ref) : MixingBehavior :=
  match S.interruptModel with
  | none => .undefined
  | some model =>
    if S.table.priority lowPrioChannel<S.table.priority highPrioChannel then .undefined
    else
      match (s.channels lowPrioChannel).getPrimaryActivity,
          (s.channels highPrioChannel).getPrimaryActivity with
      | some low,some high =>
        model (S.table.config lowPrioChannel).name (s.objects.contentType low)
          (S.table.config highPrioChannel).name (s.objects.contentType high)
      | _,_ => .undefined

def setBackground (foreground : S.table.Ref) : Manager S → List S.table.Ref → Manager S
  | s,[] => s
  | s,r::rest =>
    setBackground foreground (s.setChannelFocus r .background (s.getMixingBehavior r foreground) false) rest

section

variable (s : Manager S)

def setBackgroundChannelMixingBehavior (foreground : S.table.Ref) : Manager S :=
  setBackground foreground s (behind S.table.priority foreground s.activeChannels)

def foregroundHighestPriorityActiveChannel : Manager S :=
  match s.getHighestPriorityActiveChannel with
  | none => s
  | some r => (s.setBackgroundChannelMixingBehavior r).setChannelFocus r .foreground .primary false

/-- `notifyActivityTracker`, with the channels in the order of the table. -/
def notifyActivityTracker : Manager S :=
  let updates := (finRange S.table.entries.length).flatMap fun r => (s.channels r).activityUpdates
  {s with
    channels := fun r => {s.channels r with activityUpdates := []}
    tracked := if S.activityTracker ∧ updates≠[] then s.tracked++[updates] else s.tracked}

section

variable (r : S.table.Ref)

def acquireChannelHelper (activity : α) : Manager S :=
  let foregroundChannel := s.getHighestPriorityActiveChannel
  let (c,o) := (s.channels r).setPrimaryActivity S.activity (S.table.config r) s.objects activity
  let s := {s.setChannel r c o with
    activeChannels := insertKey S.table.priority r s.activeChannels}
  let s :=
    match foregroundChannel with
    | none => s.setChannelFocus r .foreground .primary false
    | some foreground =>
      if foreground=r then s.setChannelFocus r .foreground .primary true
      else if S.table.priority r<S.table.priority foreground then
        (s.setBackgroundChannelMixingBehavior r).setChannelFocus r .foreground .primary false
      else s.setChannelFocus r .background (s.getMixingBehavior r foreground) false
  s.notifyActivityTracker

/-- A channel without activities leaves the set and loses its focus. -/
def clearChannel : Manager S :=
  if (s.channels r).isActive then s
  else
    {s with activeChannels := eraseKey S.table.priority r s.activeChannels}.setChannelFocus r .none .mustStop false

def releaseChannelHelper (observer : Option ℕ) : Manager S :=
  match (s.channels r).releaseActivityOf S.activity (S.table.config r) s.objects observer with
  | (false,c,o) => {s.setChannel r c o with promises := s.promises++[false]}
  | (true,c,o) =>
    ({s.setChannel r c o with promises := s.promises++[true]}.clearChannel
      r).foregroundHighestPriorityActiveChannel.notifyActivityTracker

def stopForegroundActivityHelper (interfaceName : String) : Manager S :=
  if interfaceName≠(s.channels r).interfaceName then s
  else
    let (_,c,o) := (s.channels r).releaseActivity S.activity (S.table.config r) s.objects (s.channels r).interfaceName
    ((s.setChannel r c o).clearChannel r).foregroundHighestPriorityActiveChannel.notifyActivityTracker

end

end

/-- The first loop of `stopAllActivitiesHelper`. -/
def releaseOwners : Manager S → List (S.table.Ref × String) → Manager S
  | s,[] => s
  | s,(r,interfaceName)::owners =>
    let (_,c,o) := (s.channels r).releaseActivity S.activity (S.table.config r) s.objects interfaceName
    releaseOwners (s.setChannel r c o) owners

/-- The second loop of `stopAllActivitiesHelper`. -/
def clearChannels : Manager S → List S.table.Ref → Manager S
  | s,[] => s
  | s,r::rest => clearChannels (s.clearChannel r) rest

def stopAllActivitiesHelper (s : Manager S) (owners : List (S.table.Ref × String)) : Manager S :=
  ((s.releaseOwners owners).clearChannels
    (owners.map Prod.fst)).foregroundHighestPriorityActiveChannel.notifyActivityTracker

def runTask (s : Manager S) : Task S → Manager S
  | .acquireChannel r activity => s.acquireChannelHelper r activity
  | .releaseChannel r observer => s.releaseChannelHelper r observer
  | .stopForegroundActivity r interfaceName => s.stopForegroundActivityHelper r interfaceName
  | .stopAllActivities owners => s.stopAllActivitiesHelper owners

/-- `acquireChannel` of an activity; the other overload makes the activity. -/
def acquireChannel (s : Manager S) (channelName : String) (activity : α) : Bool × Manager S :=
  match S.table.getChannel channelName with
  | none => (false,s)
  | some r => (true,{s with executor := s.executor++[.acquireChannel r activity]})

def releaseChannel (s : Manager S) (channelName : String) (observer : Option ℕ) : Manager S :=
  match S.table.getChannel channelName with
  | none => {s with promises := s.promises++[false]}
  | some r => {s with executor := s.executor++[.releaseChannel r observer]}

/-- What `stopForegroundActivity` captures. -/
def captureForeground (s : Manager S) : Option (S.table.Ref × String) :=
  s.getHighestPriorityActiveChannel.map fun r => (r,(s.channels r).interfaceName)

/-- An entry for each channel, of which the first insertion stands. -/
def captureOwners (S : Setting α) (s : Manager S) : List (S.table.Ref × String) :=
  s.activeChannels.filterMap fun r =>
    (s.channels r).activities.head?.map fun activity => (r,(S.activity activity).interface)

end Manager

variable [DecidableEq α]

/-- What happens to a focus manager. -/
inductive Event (S : Setting α)
  | acquireChannel (channelName : String) (activity : α)
  | releaseChannel (channelName : String) (observer : Option ℕ)
  | stopForegroundActivity
  | stopAllActivities
  | runTask
  | patienceExpiry (channel : S.table.Ref)

/-- Requests may go to the front in a task, and a map of pointers has any order. -/
inductive Step : Manager S → Event S → Manager S → Prop
  | acquireChannel {s : Manager S} (channelName : String) (activity : α) :
      Step s (.acquireChannel channelName activity) (s.acquireChannel channelName activity).2
  | releaseChannel {s : Manager S} (channelName : String) (observer : Option ℕ) :
      Step s (.releaseChannel channelName observer) (s.releaseChannel channelName observer)
  | stopForegroundActivity {s seen : Manager S} {r : S.table.Ref} {interfaceName : String}
      (capture : seen.captureForeground=some (r,interfaceName)) :
      Step s .stopForegroundActivity
        {s with executor := .stopForegroundActivity r interfaceName::s.executor}
  | noForegroundActivity {s seen : Manager S} (capture : seen.captureForeground=none) : Step s .stopForegroundActivity s
  | stopAllActivities {s seen : Manager S} {owners : List (S.table.Ref × String)}
      (busy : seen.activeChannels≠[]) (capture : owners.Perm seen.captureOwners) :
      Step s .stopAllActivities {s with executor := .stopAllActivities owners::s.executor}
  | noActiveChannels {s seen : Manager S} (idle : seen.activeChannels=[]) : Step s .stopAllActivities s
  | runTask {s : Manager S} {task : Task S} {rest : List (Task S)}
      (next : s.executor=task::rest) : Step s .runTask ({s with executor := rest}.runTask task)
  | patienceExpiry {s : Manager S} {r : S.table.Ref} {activity : α}
      (active : (s.channels r).patienceTimer=some activity) :
      Step s (.patienceExpiry r) (s.setChannel r
          ((s.channels r).patienceTimerCallback S.activity (S.table.config r) s.objects activity).1
          ((s.channels r).patienceTimerCallback S.activity (S.table.config r) s.objects activity).2)

end

end AlexaClientSDK.FocusManager
