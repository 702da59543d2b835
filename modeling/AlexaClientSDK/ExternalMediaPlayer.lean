import Mathlib.Data.List.AList
import AlexaClientSDK.LabelledRuns

/-!
# The authorization of external media players

A directive says which of the discovered players are authorized. The executor tells the adapters of those it names; the
thread of the directive tells those it no longer names. A step goes up to the next call of an adapter or the next task.
Directives come one after the other, a payload is what is found in it, and adapters are given by their local player ids.
-/

namespace AlexaClientSDK.ExternalMediaPlayer

open LabelledRuns

abbrev LocalPlayerId := String

abbrev PlayerId := String

abbrev SkillToken := String

structure Metadata where
  playerId : Option PlayerId
  skillToken : Option SkillToken

/-- An element of `players`. -/
inductive PlayerJson
  | other
  | object (localPlayerId : Option LocalPlayerId) (authorized : Option Bool) (metadata : Option Metadata)

/-- The payload of `AuthorizeDiscoveredPlayers`. -/
inductive Payload
  | malformed
  | withoutPlayers
  | players (players : List PlayerJson)

/-- A call of `handleAuthorized`. -/
structure Authorization where
  localPlayerId : LocalPlayerId
  authorized : Bool
  playerId : PlayerId
  defaultSkillToken : SkillToken
deriving DecidableEq

/-- What is retrieved from a player, if all of it is there. -/
def PlayerJson.retrieve : PlayerJson → Option Authorization
  | .other => none
  | .object localPlayerId authorized metadata => do
    let localPlayerId ← localPlayerId
    let authorized ← authorized
    if authorized then
      let metadata ← metadata
      let playerId ← metadata.playerId
      let defaultSkillToken ← metadata.skillToken
      return ⟨localPlayerId,true,playerId,defaultSkillToken⟩
    else
      return ⟨localPlayerId,false,"",""⟩

/-- What `sendAuthorizationCompleteEvent` is given. -/
structure Report where
  authorized : AList fun _ : PlayerId => SkillToken
  deauthorized : List LocalPlayerId
  authorizedLocal : List LocalPlayerId

inductive Task
  | handleAuthorized (call : Authorization)
  | sendAuthorizationCompleteEvent (report : Report)

inductive Mark
  | handleAuthorized (call : Authorization)
  /-- An `AuthorizationComplete` event was put into `m_eventQueue`. -/
  | authorizationComplete (report : Report)
  /-- `sendExceptionEncounteredAndReportFailed`. -/
  | exceptionEncountered (message : String)
  | handlingCompleted
  | updateAuthorizedPlayers (playerIds : List PlayerId)

def Task.mark : Task → Mark
  | .handleAuthorized call => .handleAuthorized call
  | .sendAuthorizationCompleteEvent report => .authorizationComplete report

/-- The variables of `handleAuthorizeDiscoveredPlayers`. -/
structure Progress where
  authorizedForJson : AList fun _ : PlayerId => SkillToken
  newAuthorizedAdapters : AList fun _ : PlayerId => LocalPlayerId
  newAuthorizedAdaptersKeys : List PlayerId
  deauthorizedLocal : List LocalPlayerId
  parseAllSucceeded : Bool
  accepted : List Authorization

def Progress.start : Progress where
  authorizedForJson := ∅
  newAuthorizedAdapters := ∅
  newAuthorizedAdaptersKeys := []
  deauthorizedLocal := []
  parseAllSucceeded := true
  accepted := []

def Progress.authorizedLocal (progress : Progress) : List LocalPlayerId :=
  (progress.accepted.filter Authorization.authorized).map Authorization.localPlayerId

/-- Where the thread of the directive is. -/
inductive Handling
  | players (rest : List PlayerJson) (progress : Progress)
  /-- In the loop over `m_authorizedAdapters`; the ids not authorized again. -/
  | withdrawing (rest : List LocalPlayerId) (progress : Progress)

/-- The state of the `ExternalMediaPlayer`. -/
structure Player where
  authorizedAdapters : AList fun _ : PlayerId => LocalPlayerId
  queue : List Task
  handling : Option Handling
  history : List Mark

/-- A new `ExternalMediaPlayer`. -/
def create : Player where
  authorizedAdapters := ∅
  queue := []
  handling := none
  history := []

def Progress.authorize (progress : Progress) (player : Authorization) : Progress :=
  {progress with
    authorizedForJson := progress.authorizedForJson.insert player.playerId player.defaultSkillToken
    newAuthorizedAdapters := progress.newAuthorizedAdapters.insert player.playerId player.localPlayerId
    newAuthorizedAdaptersKeys := progress.newAuthorizedAdaptersKeys.insert player.playerId}

namespace Player

section

variable (s : Player)

def note (mark : Mark) : Player := {s with history := s.history++[mark]}

def handleAuthorizeDiscoveredPlayers : Payload → Player
  | .malformed => s.note (.exceptionEncountered "Unable to parse payload")
  | .withoutPlayers => {s with handling := some (.players [] .start)}
  | .players players => {s with handling := some (.players players .start)}

section

variable (adapters : List LocalPlayerId)

/-- One turn of the loop over the players. -/
def handlePlayer (s : Player) (player : PlayerJson) (rest : List PlayerJson) (progress : Progress) : Player :=
  match player.retrieve with
  | none => {s with handling := some (.players rest {progress with parseAllSucceeded := false})}
  | some player =>
    if player.localPlayerId∈adapters then
      let progress := {progress with accepted := progress.accepted++[player]}
      {s with
        queue := s.queue++[.handleAuthorized player]
        handling := some (.players rest (if player.authorized then progress.authorize player else progress))}
    else {s with handling := some (.players rest {progress with parseAllSucceeded := false})}

/-- Those whose player ids are not authorized again. -/
def withdrawn (progress : Progress) : List LocalPlayerId :=
  (s.authorizedAdapters.entries.filter fun idToLocalId => idToLocalId.1∉progress.newAuthorizedAdapters).map Sigma.snd

/-- What comes between the two loops. -/
def endPlayers (progress : Progress) : Player :=
  let s := {s with handling := some (.withdrawing (s.withdrawn progress) progress)}
  if progress.parseAllSucceeded then s.note .handlingCompleted
  else s.note (.exceptionEncountered "One or more player was not successfuly parsed")

/-- One turn of the loop over `m_authorizedAdapters`. -/
def withdraw (s : Player) (localPlayerId : LocalPlayerId) (rest : List LocalPlayerId) (progress : Progress) : Player :=
  let progress := {progress with deauthorizedLocal := progress.deauthorizedLocal.insert localPlayerId}
  let s := {s with handling := some (.withdrawing rest progress)}
  if localPlayerId ≠ "" ∧ localPlayerId∈adapters then s.note (.handleAuthorized ⟨localPlayerId,false,"",""⟩) else s

def endWithdrawals (progress : Progress) : Player :=
  let report : Report := ⟨progress.authorizedForJson,progress.deauthorizedLocal,progress.authorizedLocal⟩
  {s with
    authorizedAdapters := progress.newAuthorizedAdapters
    queue := s.queue++[Task.sendAuthorizationCompleteEvent report]
    handling := none}.note (.updateAuthorizedPlayers progress.newAuthorizedAdaptersKeys)

/-- The thread of the directive goes on. -/
def proceed (s : Player) : Player :=
  match s.handling with
  | none => s
  | some (.players [] progress) => s.endPlayers progress
  | some (.players (player::rest) progress) => s.handlePlayer adapters player rest progress
  | some (.withdrawing [] progress) => s.endWithdrawals progress
  | some (.withdrawing (localPlayerId::rest) progress) => s.withdraw adapters localPlayerId rest progress

end

def execute : Player :=
  match s.queue with
  | [] => s
  | task::queue => {s with queue := queue}.note task.mark

end

end Player

inductive Event
  | directive (payload : Payload)
  | proceed
  | execute

/-- It can happen now. -/
def Possible (s : Player) : Event → Prop
  | .directive _ => s.handling=none
  | .proceed => s.handling≠none
  | .execute => s.queue≠[]

instance (s : Player) : (event : Event) → Decidable (Possible s event)
  | .directive _ => inferInstanceAs (Decidable (s.handling=none))
  | .proceed => inferInstanceAs (Decidable (s.handling≠none))
  | .execute => inferInstanceAs (Decidable (s.queue≠[]))

section

variable (adapters : List LocalPlayerId)

def Player.next (s : Player) : Event → Player
  | .directive payload => s.handleAuthorizeDiscoveredPlayers payload
  | .proceed => s.proceed adapters
  | .execute => s.execute

def Step (s : Player) (event : Event) (t : Player) : Prop :=
  Possible s event ∧ t=s.next adapters event

theorem step_next (s : Player) (event : Event)
    (hpossible : decide (Possible s event)=true) : Step adapters s event (s.next adapters event) :=
  ⟨of_decide_eq_true hpossible,rfl⟩

end

end AlexaClientSDK.ExternalMediaPlayer
