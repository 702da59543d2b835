import AlexaClientSDK.ExternalMediaPlayer
import AlexaClientSDK.Histories

/-!
# The adapters and the authorized players

What an adapter is told last is the last of its calls that were made or wait for the executor. Where a directive is
consistent with itself and with what was authorized before, that is an authorization exactly for those that
`m_authorizedAdapters` is to hold. A withdrawal, which is made at once, is the last only if no authorization waits.
-/

namespace AlexaClientSDK.ExternalMediaPlayer

open Bool AList Option List LabelledRuns Histories Authorization Player

def Mark.call : Mark → Option Authorization
  | .handleAuthorized call => some call
  | .authorizationComplete _ | .exceptionEncountered _ | .handlingCompleted | .updateAuthorizedPlayers _ => none

def Task.call : Task → Option Authorization
  | .handleAuthorized call => some call
  | .sendAuthorizationCompleteEvent _ => none

def received (history : List Mark) : List Authorization := history.filterMap Mark.call

def waiting (queue : List Task) : List Authorization := queue.filterMap Task.call

def Authorization.isFor (localPlayerId : LocalPlayerId) (call : Authorization) : Bool :=
  call.localPlayerId=localPlayerId

/-- The last call of an adapter authorizes it with the player id. -/
def AuthorizedWith (localPlayerId : LocalPlayerId) (playerId : PlayerId) (calls : List Authorization) : Prop :=
  ∃ call,calls.findRev? (isFor localPlayerId)=some call ∧ call.authorized=true ∧ call.playerId=playerId

/-- No directive is being handled and no task waits. -/
def Drained (s : Player) : Prop := s.handling=none ∧ s.queue=[]

section

variable (adapters : List LocalPlayerId)

section

variable (s : Player)

/-- Its last call was an authorization with the ids mapped to it. -/
def Agrees : Prop :=
  ∀ localPlayerId∈adapters,∀ playerId,AuthorizedWith localPlayerId playerId (received s.history) ↔
    s.authorizedAdapters.lookup playerId=some localPlayerId

/-- None is reported as deauthorized that is authorized. -/
def Report.Disjoint (report : Report) : Prop :=
  ∀ localPlayerId∈report.deauthorized,localPlayerId∉report.authorizedLocal

/-- The players of a directive whose adapters are to be told. -/
def acceptedOf (players : List PlayerJson) : List Authorization :=
  (players.filterMap PlayerJson.retrieve).filter fun player => player.localPlayerId∈adapters

def Payload.accepted : Payload → List Authorization
  | .malformed | .withoutPlayers => []
  | .players elements => acceptedOf adapters elements

def Authorization.authorizes (playerId : PlayerId) (player : Authorization) : Bool :=
  player.authorized && player.playerId=playerId

/-- The last with its local id if no later one has its player id. -/
def Unambiguous (accepted : List Authorization) : Prop :=
  ∀ before player after,accepted=before++player::after → player.authorized=true →
    ((∀ other∈after,other.isFor player.localPlayerId=false) ↔ ∀ other∈after,other.authorizes player.playerId=false)

/-- The directive agrees with itself and with what was authorized before. -/
structure Consistent (authorizedAdapters : AList fun _ : PlayerId => LocalPlayerId) (accepted : List Authorization) :
    Prop where
  unambiguous : Unambiguous accepted
  /-- A player id that was authorized before is authorized with its local player. -/
  kept : ∀ playerId localPlayerId,authorizedAdapters.lookup playerId=some localPlayerId →
    (∃ player∈accepted,player.authorizes playerId=true) → ∃ player∈accepted,player.isFor localPlayerId=true
  /-- It does not authorize that player with another player id. -/
  dropped : ∀ playerId localPlayerId,authorizedAdapters.lookup playerId=some localPlayerId →
    (∀ player∈accepted,player.authorizes playerId=false) →
    ∀ player∈accepted,player.authorized=true → player.isFor localPlayerId=false

/-- What an adapter is called after its withdrawal. -/
def pendingCalls (localPlayerId : LocalPlayerId) : List Authorization :=
  (if localPlayerId = "" then received s.history else [])++waiting s.queue

/-- The last of them is no authorization. -/
def Settled (localPlayerId : LocalPlayerId) : Prop :=
  ∀ call∈(pendingCalls s localPlayerId).findRev? (isFor localPlayerId),call.authorized=false

def nextWithdrawn : Option LocalPlayerId :=
  match s.handling with
  | some (.withdrawing (localPlayerId::_) _) => some localPlayerId
  | some (.withdrawing [] _) | some (.players _ _) | none => none

def Sound : Event → Prop
  | .directive payload => Consistent s.authorizedAdapters (payload.accepted adapters)
  | .proceed => ∀ localPlayerId∈nextWithdrawn s,Settled s localPlayerId
  | .execute => True

end

end

variable {adapters : List LocalPlayerId} {localPlayerId : LocalPlayerId} {playerId : PlayerId}
  {calls more accepted : List Authorization} {call : Authorization}

theorem isFor_eq_true : call.isFor localPlayerId=true ↔ call.localPlayerId=localPlayerId := decide_eq_true_iff

theorem isFor_eq_false : call.isFor localPlayerId=false ↔ call.localPlayerId≠localPlayerId := decide_eq_false_iff_not

theorem authorizes_eq_true : call.authorizes playerId=true ↔ call.authorized=true ∧ call.playerId=playerId := by
  unfold authorizes
  rw [and_eq_true_iff,decide_eq_true_iff]

theorem authorizedWith_snoc (h : call.localPlayerId=localPlayerId) :
    AuthorizedWith localPlayerId playerId (calls++[call]) ↔ call.authorized=true ∧ call.playerId=playerId := by
  unfold AuthorizedWith
  rw [findRev?_snoc (isFor_eq_true.mpr h)]
  constructor
  · rintro ⟨last,heq,hlast⟩
    rw [some.inj heq]
    exact hlast
  · exact fun hcall => ⟨call,rfl,hcall⟩

/-- Another call of another adapter does not count. -/
theorem authorizedWith_snoc_of_ne (h : call.localPlayerId≠localPlayerId) :
    AuthorizedWith localPlayerId playerId (calls++[call]) ↔ AuthorizedWith localPlayerId playerId calls := by
  unfold AuthorizedWith
  rw [findRev?_snoc_of_not (isFor_eq_false.mpr h)]

theorem authorizedWith_append : AuthorizedWith localPlayerId playerId (calls++more) ↔
    AuthorizedWith localPlayerId playerId more ∨
      (∀ call∈more,call.localPlayerId≠localPlayerId) ∧ AuthorizedWith localPlayerId playerId calls := by
  unfold AuthorizedWith
  rw [findRev?_append]
  cases hlast : more.findRev? (isFor localPlayerId) with
  | some last =>
    rw [some_or]
    refine ⟨.inl,?_⟩
    rintro (h|⟨hnone,-⟩)
    · exact h
    · obtain ⟨hlast,before,after,heq,-⟩ := findRev?_eq_some_iff.mp hlast
      refine (hnone last ?_ (isFor_eq_true.mp hlast)).elim
      rw [heq]
      exact mem_append_right _ mem_cons_self
  | none =>
    rw [none_or]
    refine ⟨fun h => .inr ⟨fun call hmem => ?_,h⟩,?_⟩
    · exact isFor_eq_false.mp (findRev?_eq_none_iff.mp hlast call hmem)
    · rintro (⟨_,hsome,-⟩|⟨-,h⟩)
      · cases hsome
      · exact h

theorem AuthorizedWith.mem (h : AuthorizedWith localPlayerId playerId calls) :
    ∃ call∈calls,call.localPlayerId=localPlayerId ∧ call.authorized=true ∧ call.playerId=playerId := by
  obtain ⟨call,hlast,hcall⟩ := h
  obtain ⟨hfor,before,after,rfl,-⟩ := findRev?_eq_some_iff.mp hlast
  exact ⟨call,mem_append_right _ mem_cons_self,isFor_eq_true.mp hfor,hcall⟩

theorem Unambiguous.authorizedWith_iff (h : Unambiguous accepted) : AuthorizedWith localPlayerId playerId accepted ↔
    (accepted.findRev? (Authorization.authorizes playerId)).map Authorization.localPlayerId=some localPlayerId := by
  constructor
  · rintro ⟨call,hlast,hauthorized,rfl⟩
    obtain ⟨hfor,before,after,heq,hnone⟩ := findRev?_eq_some_iff.mp hlast
    obtain rfl := isFor_eq_true.mp hfor
    have hlater := (h before call after heq hauthorized).mp hnone
    rw [findRev?_eq_some_iff.mpr ⟨authorizes_eq_true.mpr ⟨hauthorized,rfl⟩,before,after,heq,hlater⟩]
    rfl
  · intro hmap
    obtain ⟨call,hlast,rfl⟩ := map_eq_some_iff.mp hmap
    obtain ⟨hauthorizes,before,after,heq,hnone⟩ := findRev?_eq_some_iff.mp hlast
    obtain ⟨hauthorized,rfl⟩ := authorizes_eq_true.mp hauthorizes
    have hlater := (h before call after heq hauthorized).mpr hnone
    exact ⟨call,findRev?_eq_some_iff.mpr ⟨isFor_eq_true.mpr rfl,before,after,heq,hlater⟩,hauthorized,rfl⟩

/-- `newAuthorizedAdapters` is what the players make of it. -/
structure Collected (adapters : List LocalPlayerId) (progress : Progress) : Prop where
  /-- A player id is mapped to the local player that was last authorized with it. -/
  lookup : ∀ playerId,progress.newAuthorizedAdapters.lookup playerId =
    (progress.accepted.findRev? (Authorization.authorizes playerId)).map Authorization.localPlayerId
  known : ∀ player∈progress.accepted,player.localPlayerId∈adapters

/-- In the loop over the players. -/
structure Collecting (adapters : List LocalPlayerId) (authorizedAdapters : AList fun _ : PlayerId => LocalPlayerId)
    (calls : List Authorization) (rest : List PlayerJson) (progress : Progress) : Prop where
  collected : Collected adapters progress
  consistent : Consistent authorizedAdapters (progress.accepted++acceptedOf adapters rest)
  nobody : progress.deauthorizedLocal=[]
  /-- An adapter that was named is to be told what the directive says. -/
  named : ∀ localPlayerId∈adapters,(∃ player∈progress.accepted,player.localPlayerId=localPlayerId) →
    ∀ playerId,AuthorizedWith localPlayerId playerId calls ↔ AuthorizedWith localPlayerId playerId progress.accepted
  unnamed : ∀ localPlayerId∈adapters,(∀ player∈progress.accepted,player.localPlayerId≠localPlayerId) →
    ∀ playerId,AuthorizedWith localPlayerId playerId calls ↔ authorizedAdapters.lookup playerId=some localPlayerId

/-- In the loop over those that were authorized. -/
structure Withdrawing (adapters : List LocalPlayerId) (calls : List Authorization) (rest : List LocalPlayerId)
    (progress : Progress) : Prop where
  collected : Collected adapters progress
  told : ∀ localPlayerId∈adapters,∀ playerId,
    progress.newAuthorizedAdapters.lookup playerId=some localPlayerId → AuthorizedWith localPlayerId playerId calls
  remaining : ∀ localPlayerId∈adapters,∀ playerId,AuthorizedWith localPlayerId playerId calls →
    progress.newAuthorizedAdapters.lookup playerId=some localPlayerId ∨ localPlayerId∈rest
  disjoint : ∀ localPlayerId,localPlayerId∈progress.deauthorizedLocal ∨ localPlayerId∈rest →
    localPlayerId∉progress.authorizedLocal
  known : ∀ localPlayerId∈rest,localPlayerId∈adapters

/-- What holds where the thread of a directive is. -/
def Stage (adapters : List LocalPlayerId) (authorizedAdapters : AList fun _ : PlayerId => LocalPlayerId)
    (calls : List Authorization) : Option Handling → Prop
  | none => ∀ localPlayerId∈adapters,∀ playerId,AuthorizedWith localPlayerId playerId calls ↔
      authorizedAdapters.lookup playerId=some localPlayerId
  | some (.players rest progress) => Collecting adapters authorizedAdapters calls rest progress
  | some (.withdrawing rest progress) => Withdrawing adapters calls rest progress

/-- What the adapters were told and are to be told. -/
def scheduled (s : Player) : List Authorization := received s.history++waiting s.queue

/-- What holds in every sound run. -/
structure Inv (adapters : List LocalPlayerId) (s : Player) : Prop where
  known : ∀ playerId localPlayerId,s.authorizedAdapters.lookup playerId=some localPlayerId → localPlayerId∈adapters
  reported : ∀ report,.authorizationComplete report∈s.history → report.Disjoint
  queued : ∀ report,.sendAuthorizationCompleteEvent report∈s.queue → report.Disjoint
  stage : Stage adapters s.authorizedAdapters (scheduled s) s.handling

theorem inv_create : Inv adapters create where
  known _ _ hlookup := by cases hlookup
  reported _ hmem := by cases hmem
  queued _ hmem := by cases hmem
  stage localPlayerId _ playerId := by
    refine iff_of_false ?_ nofun
    rintro ⟨_,hlast,-⟩
    cases hlast

variable {s t : Player} {progress : Progress} {history : List Mark}

theorem received_snoc {mark : Mark} (hcall : mark.call=none) : received (history++[mark])=received history := by
  unfold received
  rw [filterMap_append,filterMap_cons_none hcall,filterMap_nil,append_nil]

theorem received_snoc_call : received (history++[.handleAuthorized call])=received history++[call] := by
  unfold received
  rw [filterMap_append]
  rfl

theorem scheduled_submit : scheduled {s with queue := s.queue++[.handleAuthorized call]}=scheduled s++[call] := by
  unfold scheduled waiting
  rw [filterMap_append,←append_assoc]
  rfl

theorem scheduled_execute {task : Task} {queue : List Task} (hqueue : s.queue=task::queue) :
    scheduled ({s with queue := queue}.note task.mark)=scheduled s := by
  unfold scheduled
  rw [hqueue]
  unfold note
  cases task with
  | handleAuthorized call =>
    change received (s.history++[.handleAuthorized call])++waiting queue=received s.history++(call::waiting queue)
    rw [received_snoc_call,append_assoc,singleton_append]
  | sendAuthorizationCompleteEvent report =>
    change received (s.history++[.authorizationComplete report])++waiting queue=received s.history++waiting queue
    rw [received_snoc rfl]

variable {authorizedAdapters : AList fun _ : PlayerId => LocalPlayerId} {rest : List PlayerJson}

variable {player : PlayerJson}

/-- A player of which something is missing, or whose adapter is not known. -/
theorem Collecting.skip (h : Collecting adapters authorizedAdapters calls (player::rest) progress)
    (hskip : acceptedOf adapters (player::rest)=acceptedOf adapters rest) :
    Collecting adapters authorizedAdapters calls rest {progress with parseAllSucceeded := false} := by
  have hconsistent := h.consistent
  rw [hskip] at hconsistent
  exact ⟨⟨h.collected.lookup,h.collected.known⟩,hconsistent,h.nobody,h.named,h.unnamed⟩

theorem Collecting.accept (h : Collecting adapters authorizedAdapters calls (player::rest) progress)
    (haccept : acceptedOf adapters (player::rest)=call::acceptedOf adapters rest)
    (hknown : call.localPlayerId∈adapters) {progress' : Progress}
    (haccepted : progress'.accepted=progress.accepted++[call]) (hnobody : progress'.deauthorizedLocal=[])
    (hlookup : ∀ playerId,progress'.newAuthorizedAdapters.lookup playerId =
      if call.authorizes playerId=true then some call.localPlayerId
      else progress.newAuthorizedAdapters.lookup playerId) :
    Collecting adapters authorizedAdapters (calls++[call]) rest progress' := by
  refine ⟨⟨fun playerId => ?_,?_⟩,?_,hnobody,?_,?_⟩
  · rw [haccepted,hlookup]
    cases hauthorizes : call.authorizes playerId with
    | true =>
      rw [if_pos rfl,findRev?_snoc hauthorizes]
      rfl
    | false =>
      rw [if_neg Bool.false_ne_true,findRev?_snoc_of_not hauthorizes]
      exact h.collected.lookup playerId
  · rw [haccepted]
    intro other hmem
    obtain hmem|hmem := mem_append.mp hmem
    · exact h.collected.known other hmem
    · rw [mem_singleton.mp hmem]
      exact hknown
  · have hconsistent := h.consistent
    rw [haccept,←singleton_append,←append_assoc] at hconsistent
    rw [haccepted]
    exact hconsistent
  · rw [haccepted]
    intro localPlayerId hadapter hnamed playerId
    by_cases heq : call.localPlayerId=localPlayerId
    · rw [authorizedWith_snoc heq,authorizedWith_snoc heq]
    · rw [authorizedWith_snoc_of_ne heq,authorizedWith_snoc_of_ne heq]
      obtain ⟨other,hmem,hother⟩ := hnamed
      obtain hmem|hmem := mem_append.mp hmem
      · exact h.named localPlayerId hadapter ⟨other,hmem,hother⟩ playerId
      · rw [mem_singleton.mp hmem] at hother
        exact (heq hother).elim
  · rw [haccepted]
    intro localPlayerId hadapter hunnamed playerId
    have hne := hunnamed call mem_concat_self
    rw [authorizedWith_snoc_of_ne hne]
    exact h.unnamed localPlayerId hadapter (fun other hmem => hunnamed other (mem_append_left _ hmem)) playerId

theorem mem_authorizedLocal : localPlayerId∈progress.authorizedLocal ↔
    ∃ player∈progress.accepted,player.authorized=true ∧ player.localPlayerId=localPlayerId := by
  unfold Progress.authorizedLocal
  rw [List.mem_map]
  constructor
  · rintro ⟨player,hmem,heq⟩
    obtain ⟨hmem,hauthorized⟩ := mem_filter.mp hmem
    exact ⟨player,hmem,hauthorized,heq⟩
  · rintro ⟨player,hmem,hauthorized,heq⟩
    exact ⟨player,mem_filter.mpr ⟨hmem,hauthorized⟩,heq⟩

theorem mem_withdrawn : localPlayerId∈s.withdrawn progress ↔ ∃ playerId,
    s.authorizedAdapters.lookup playerId=some localPlayerId ∧ progress.newAuthorizedAdapters.lookup playerId=none := by
  unfold withdrawn
  rw [List.mem_map]
  constructor
  · rintro ⟨⟨playerId,other⟩,hmem,rfl⟩
    obtain ⟨hmem,hnot⟩ := mem_filter.mp hmem
    exact ⟨playerId,mem_lookup_iff.mpr hmem,lookup_eq_none.mpr (of_decide_eq_true hnot)⟩
  · rintro ⟨playerId,hlookup,hnot⟩
    refine ⟨⟨playerId,localPlayerId⟩,mem_filter.mpr ⟨mem_lookup_iff.mp hlookup,?_⟩,rfl⟩
    exact decide_eq_true (lookup_eq_none.mp hnot)

theorem Collecting.withdrawing (h : Collecting adapters s.authorizedAdapters calls [] progress)
    (hknown : ∀ playerId localPlayerId,s.authorizedAdapters.lookup playerId=some localPlayerId →
      localPlayerId∈adapters) : Withdrawing adapters calls (s.withdrawn progress) progress := by
  have hconsistent := h.consistent
  have hempty : acceptedOf adapters []=[] := rfl
  rw [hempty,append_nil] at hconsistent
  have hfinal : ∀ localPlayerId playerId,AuthorizedWith localPlayerId playerId progress.accepted ↔
      progress.newAuthorizedAdapters.lookup playerId=some localPlayerId := by
    intro localPlayerId playerId
    rw [h.collected.lookup]
    exact hconsistent.unambiguous.authorizedWith_iff
  refine ⟨h.collected,fun localPlayerId hadapter playerId hlookup => ?_,fun localPlayerId hadapter playerId hcalls => ?_,
    fun localPlayerId hmem hauthorized => ?_,fun localPlayerId hmem => ?_⟩
  · have haccepted := (hfinal localPlayerId playerId).mpr hlookup
    obtain ⟨player,hmem,hplayer,-⟩ := haccepted.mem
    exact (h.named localPlayerId hadapter ⟨player,hmem,hplayer⟩ playerId).mpr haccepted
  · by_cases hnamed : ∃ player∈progress.accepted,player.localPlayerId=localPlayerId
    · exact .inl ((hfinal localPlayerId playerId).mp ((h.named localPlayerId hadapter hnamed playerId).mp hcalls))
    · have hunnamed : ∀ player∈progress.accepted,player.localPlayerId≠localPlayerId :=
        fun player hmem heq => hnamed ⟨player,hmem,heq⟩
      have hlookup := (h.unnamed localPlayerId hadapter hunnamed playerId).mp hcalls
      refine .inr (mem_withdrawn.mpr ⟨playerId,hlookup,?_⟩)
      rw [h.collected.lookup,map_eq_none_iff]
      refine findRev?_eq_none_iff.mpr fun player hmem => eq_false_iff.mpr fun hauthorizes => ?_
      obtain ⟨other,hmem',hfor⟩ := hconsistent.kept playerId localPlayerId hlookup ⟨player,hmem,hauthorizes⟩
      exact hunnamed other hmem' (isFor_eq_true.mp hfor)
  · rw [h.nobody] at hmem
    obtain hmem|hmem := hmem
    · cases hmem
    · obtain ⟨playerId,hlookup,hnot⟩ := mem_withdrawn.mp hmem
      obtain ⟨player,hplayer,hauthorized,heq⟩ := mem_authorizedLocal.mp hauthorized
      rw [h.collected.lookup,map_eq_none_iff] at hnot
      have hother := hconsistent.dropped playerId localPlayerId hlookup (findRev?_eq_none_iff.mp hnot) player hplayer
        hauthorized
      exact isFor_eq_false.mp hother heq
  · obtain ⟨playerId,hlookup,-⟩ := mem_withdrawn.mp hmem
    exact hknown playerId localPlayerId hlookup

theorem Collected.mem_authorizedLocal (h : Collected adapters progress)
    (hlookup : progress.newAuthorizedAdapters.lookup playerId=some localPlayerId) :
    localPlayerId∈progress.authorizedLocal := by
  rw [h.lookup] at hlookup
  obtain ⟨player,hlast,heq⟩ := map_eq_some_iff.mp hlookup
  obtain ⟨hauthorizes,before,after,haccepted,-⟩ := findRev?_eq_some_iff.mp hlast
  refine ExternalMediaPlayer.mem_authorizedLocal.mpr ⟨player,?_,(authorizes_eq_true.mp hauthorizes).1,heq⟩
  rw [haccepted]
  exact mem_append_right _ mem_cons_self

/-- The first is withdrawn, and for the others nothing changes. -/
theorem Withdrawing.next {rest : List LocalPlayerId} (h : Withdrawing adapters calls (localPlayerId::rest) progress)
    (hzero : ∀ playerId,¬AuthorizedWith localPlayerId playerId more)
    (hother : ∀ other,other≠localPlayerId → ∀ playerId,
      AuthorizedWith other playerId more ↔ AuthorizedWith other playerId calls) : Withdrawing adapters more rest
      {progress with deauthorizedLocal := progress.deauthorizedLocal.insert localPlayerId} := by
  refine ⟨⟨h.collected.lookup,h.collected.known⟩,fun other hadapter playerId hlookup => ?_,
    fun other hadapter playerId hmore => ?_,fun other hmem => ?_,
    fun other hmem => h.known other (mem_cons_of_mem _ hmem)⟩
  · refine (hother other ?_ playerId).mpr (h.told other hadapter playerId hlookup)
    rintro rfl
    exact h.disjoint other (.inr mem_cons_self) (h.collected.mem_authorizedLocal hlookup)
  · have hne : other≠localPlayerId := by
      rintro rfl
      exact hzero playerId hmore
    obtain hlookup|hmem := h.remaining other hadapter playerId ((hother other hne playerId).mp hmore)
    · exact .inl hlookup
    · exact .inr ((mem_cons.mp hmem).resolve_left hne)
  · refine h.disjoint other ?_
    obtain hmem|hmem := hmem
    · obtain rfl|hmem := mem_insert_iff.mp hmem
      · exact .inr mem_cons_self
      · exact .inl hmem
    · exact .inr (mem_cons_of_mem _ hmem)

section

variable (h : Inv adapters s)
include h

theorem Inv.execute : Inv adapters s.execute := by
  unfold Player.execute
  cases hqueue : s.queue with
  | nil => exact h
  | cons task =>
    have hqueued := h.queued
    rw [hqueue] at hqueued
    refine ⟨h.known,fun report hmem => ?_,fun report hmem => hqueued report (mem_cons_of_mem _ hmem),?_⟩
    · obtain hmem|hmem := mem_append.mp hmem
      · exact h.reported report hmem
      · cases task with
        | handleAuthorized => cases mem_singleton.mp hmem
        | sendAuthorizationCompleteEvent =>
          cases mem_singleton.mp hmem
          exact hqueued _ mem_cons_self
    · have hstage := h.stage
      rw [←scheduled_execute hqueue] at hstage
      exact hstage

variable {handling : Option Handling}

/-- A mark that is neither a call nor an event, and another place of the thread. -/
theorem Inv.note {mark : Mark} (hcall : mark.call=none) (hevent : ∀ report,mark≠.authorizationComplete report)
    (hstage : Stage adapters s.authorizedAdapters (scheduled s) handling) :
    Inv adapters ({s with handling := handling}.note mark) := by
  refine ⟨h.known,fun report hmem => ?_,h.queued,?_⟩
  · obtain hmem|hmem := mem_append.mp hmem
    · exact h.reported report hmem
    · exact (hevent report (mem_singleton.mp hmem).symm).elim
  · have hscheduled : scheduled ({s with handling := handling}.note mark)=scheduled s := by
      unfold scheduled Player.note
      rw [received_snoc hcall]
    rw [hscheduled]
    exact hstage

theorem Inv.move (hstage : Stage adapters s.authorizedAdapters (scheduled s) handling) :
    Inv adapters {s with handling := handling} := ⟨h.known,h.reported,h.queued,hstage⟩

theorem Inv.directive (hnone : s.handling=none) {payload : Payload}
    (hconsistent : Consistent s.authorizedAdapters (payload.accepted adapters)) :
    Inv adapters (s.handleAuthorizeDiscoveredPlayers payload) := by
  have hstage := h.stage
  rw [hnone] at hstage
  have hstart : ∀ elements,Consistent s.authorizedAdapters (acceptedOf adapters elements) →
      Collecting adapters s.authorizedAdapters (scheduled s) elements .start := by
    intro elements hconsistent
    refine ⟨⟨fun _ => rfl,nofun⟩,hconsistent,rfl,?_,fun localPlayerId hknown _ => ?_⟩
    · rintro _ _ ⟨_,hmem,-⟩
      cases hmem
    · exact hstage localPlayerId hknown
  cases payload with
  | malformed =>
    have hsame : s.handleAuthorizeDiscoveredPlayers .malformed =
        {s with handling := none}.note (.exceptionEncountered "Unable to parse payload") := by
      rw [←hnone]
      rfl
    rw [hsame]
    exact h.note rfl (fun _ heq => by cases heq) hstage
  | withoutPlayers => exact h.move (hstart [] hconsistent)
  | players elements => exact h.move (hstart elements hconsistent)

theorem Inv.handlePlayer (hhandling : s.handling=some (.players (player::rest) progress)) :
    Inv adapters (s.handlePlayer adapters player rest progress) := by
  have hstage := h.stage
  rw [hhandling] at hstage
  have hcollecting : Collecting adapters s.authorizedAdapters (scheduled s) (player::rest) progress := hstage
  unfold Player.handlePlayer
  cases hretrieve : player.retrieve with
  | none =>
    refine h.move (hcollecting.skip ?_)
    unfold acceptedOf
    rw [filterMap_cons_none hretrieve]
  | some call =>
    dsimp only
    by_cases hknown : call.localPlayerId∈adapters
    · rw [if_pos hknown]
      have haccept : acceptedOf adapters (player::rest)=call::acceptedOf adapters rest := by
        unfold acceptedOf
        rw [filterMap_cons_some hretrieve,filter_cons,if_pos (decide_eq_true hknown)]
      refine ⟨h.known,h.reported,fun report hmem => ?_,?_⟩
      · obtain hmem|hmem := mem_append.mp hmem
        · exact h.queued report hmem
        · cases mem_singleton.mp hmem
      · have hscheduled : scheduled {s with queue := s.queue++[.handleAuthorized call]}=scheduled s++[call] :=
          scheduled_submit
        unfold scheduled at hscheduled ⊢
        rw [hscheduled]
        cases hauthorized : call.authorized with
        | true =>
          refine hcollecting.accept haccept hknown rfl hcollecting.nobody fun playerId => ?_
          by_cases heq : call.playerId=playerId
          · subst heq
            rw [if_pos (authorizes_eq_true.mpr ⟨hauthorized,rfl⟩)]
            exact lookup_insert _
          · rw [if_neg fun hauthorizes => heq (authorizes_eq_true.mp hauthorizes).2]
            exact lookup_insert_ne (Ne.symm heq)
        | false =>
          refine hcollecting.accept haccept hknown rfl hcollecting.nobody fun playerId => ?_
          have hnot : ¬call.authorizes playerId=true := by
            intro hauthorizes
            cases hauthorized.symm.trans (authorizes_eq_true.mp hauthorizes).1
          rw [if_neg hnot]
          rfl
    · rw [if_neg hknown]
      refine h.move (hcollecting.skip ?_)
      unfold acceptedOf
      rw [filterMap_cons_some hretrieve,filter_cons_of_neg]
      rw [decide_eq_true_iff]
      exact hknown

theorem Inv.endPlayers (hhandling : s.handling=some (.players [] progress)) : Inv adapters (s.endPlayers progress) := by
  have hstage := h.stage
  rw [hhandling] at hstage
  have hcollecting : Collecting adapters s.authorizedAdapters (scheduled s) [] progress := hstage
  have hwithdrawing := hcollecting.withdrawing h.known
  unfold Player.endPlayers
  split
  · exact h.note rfl (fun _ heq => by cases heq) hwithdrawing
  · exact h.note rfl (fun _ heq => by cases heq) hwithdrawing

/-- One turn of the loop over those that were authorized. -/
theorem Inv.withdraw {rest : List LocalPlayerId}
    (hhandling : s.handling=some (.withdrawing (localPlayerId::rest) progress)) (hsettled : Settled s localPlayerId) :
    Inv adapters (s.withdraw adapters localPlayerId rest progress) := by
  have hstage := h.stage
  rw [hhandling] at hstage
  have hwithdrawing : Withdrawing adapters (scheduled s) (localPlayerId::rest) progress := hstage
  have hknown := hwithdrawing.known localPlayerId mem_cons_self
  replace hsettled : ∀ playerId,¬AuthorizedWith localPlayerId playerId (pendingCalls s localPlayerId) := by
    rintro playerId ⟨call,hlast,hauthorized,-⟩
    cases hauthorized.symm.trans (hsettled call hlast)
  unfold pendingCalls at hsettled
  unfold Player.withdraw
  by_cases hempty : localPlayerId = ""
  · rw [if_pos hempty] at hsettled
    rw [if_neg fun htold => htold.1 hempty]
    exact h.move (hwithdrawing.next hsettled fun _ _ _ => Iff.rfl)
  · rw [if_neg hempty,nil_append] at hsettled
    rw [if_pos ⟨hempty,hknown⟩]
    refine ⟨h.known,fun report hmem => ?_,h.queued,?_⟩
    · obtain hmem|hmem := mem_append.mp hmem
      · exact h.reported report hmem
      · cases mem_singleton.mp hmem
    · refine hwithdrawing.next (fun playerId => ?_) fun other hne playerId => ?_
      · unfold scheduled Player.note
        rw [received_snoc_call,authorizedWith_append]
        rintro (hwaiting|⟨-,hlast⟩)
        · exact hsettled playerId hwaiting
        · have hself : (⟨localPlayerId,false,"",""⟩ : Authorization).localPlayerId=localPlayerId := rfl
          cases ((authorizedWith_snoc hself).mp hlast).1
      · unfold scheduled Player.note
        rw [received_snoc_call]
        refine authorizedWith_append.trans (Iff.trans ?_ authorizedWith_append.symm)
        exact or_congr_right (and_congr_right fun _ => authorizedWith_snoc_of_ne (Ne.symm hne))

theorem Inv.endWithdrawals (hhandling : s.handling=some (.withdrawing [] progress)) :
    Inv adapters (s.endWithdrawals progress) := by
  have hstage := h.stage
  rw [hhandling] at hstage
  have hwithdrawing : Withdrawing adapters (scheduled s) [] progress := hstage
  refine ⟨fun playerId localPlayerId hlookup => ?_,fun report hmem => ?_,fun report hmem => ?_,
    fun localPlayerId hadapter playerId => ?_⟩
  · obtain ⟨player,hmem,-,rfl⟩ := mem_authorizedLocal.mp (hwithdrawing.collected.mem_authorizedLocal hlookup)
    exact hwithdrawing.collected.known player hmem
  · obtain hmem|hmem := mem_append.mp hmem
    · exact h.reported report hmem
    · cases mem_singleton.mp hmem
  · obtain hmem|hmem := mem_append.mp hmem
    · exact h.queued report hmem
    · cases mem_singleton.mp hmem
      exact fun localPlayerId hmem => hwithdrawing.disjoint localPlayerId (.inl hmem)
  · have hscheduled : scheduled (s.endWithdrawals progress)=scheduled s := by
      unfold scheduled waiting Player.endWithdrawals Player.note
      rw [received_snoc rfl,filterMap_append,filterMap_cons_none rfl,filterMap_nil,append_nil]
    rw [hscheduled]
    constructor
    · intro hcalls
      obtain hlookup|hmem := hwithdrawing.remaining localPlayerId hadapter playerId hcalls
      · exact hlookup
      · cases hmem
    · exact hwithdrawing.told localPlayerId hadapter playerId

theorem inv_step {event : Event} (hstep : Step adapters s event t) (hsound : Sound adapters s event) :
    Inv adapters t := by
  obtain ⟨hpossible,rfl⟩ := hstep
  cases event with
  | directive => exact h.directive hpossible hsound
  | execute => exact h.execute
  | proceed =>
    change Inv adapters (s.proceed adapters)
    unfold proceed
    split
    · exact h
    next progress hhandling => exact h.endPlayers hhandling
    next player rest progress hhandling => exact h.handlePlayer hhandling
    next progress hhandling => exact h.endWithdrawals hhandling
    next localPlayerId rest progress hhandling =>
      refine h.withdraw hhandling (hsound localPlayerId ?_)
      unfold nextWithdrawn
      rw [hhandling]
      rfl

end

/-- In every run in which each directive is consistent and each adapter is settled when it is withdrawn, the
adapters agree with `m_authorizedAdapters` whenever the executor has drained, and no event deauthorizes a local
player that its directive authorizes. -/
theorem adapters_agree {trace : List Event} (hrun : Run (Guarded (Step adapters) (Sound adapters)) create trace s) :
    (Drained s → Agrees adapters s) ∧ ∀ report,.authorizationComplete report∈s.history → report.Disjoint := by
  have h : Inv adapters s := hrun.invariant (Inv adapters) inv_create fun _ _ _ h hstep => inv_step h hstep.2 hstep.1
  refine ⟨fun hdrained => ?_,h.reported⟩
  have hstage := h.stage
  have hscheduled : scheduled s=received s.history := by
    unfold scheduled
    rw [hdrained.2]
    exact append_nil _
  rw [hdrained.1,hscheduled] at hstage
  exact hstage

/-- Where ids occur once, directives agree with themselves. -/
theorem unambiguous_of_nodup (hlocal : (accepted.map Authorization.localPlayerId).Nodup)
    (hplayer : ((accepted.filter Authorization.authorized).map Authorization.playerId).Nodup) : Unambiguous accepted := by
  rintro before player after rfl hauthorized
  rw [map_append,map_cons] at hlocal
  rw [filter_append,filter_cons,if_pos hauthorized,map_append,map_cons] at hplayer
  have hlocal' := (nodup_cons.mp hlocal.of_append_right).1
  have hplayer' := (nodup_cons.mp hplayer.of_append_right).1
  refine iff_of_true (fun other hmem => isFor_eq_false.mpr fun heq => ?_) fun other hmem => ?_
  · exact hlocal' (mem_map.mpr ⟨other,hmem,heq⟩)
  · refine eq_false_iff.mpr fun hauthorizes => ?_
    obtain ⟨hother,heq⟩ := authorizes_eq_true.mp hauthorizes
    exact hplayer' (mem_map.mpr ⟨other,mem_filter.mpr ⟨hmem,hother⟩,heq⟩)

theorem consistent_empty (h : Unambiguous accepted) : Consistent ∅ accepted where
  unambiguous := h
  kept _ _ hlookup := by cases hlookup
  dropped _ _ hlookup := by cases hlookup

theorem consistent_nil (authorizedAdapters : AList fun _ : PlayerId => LocalPlayerId) :
    Consistent authorizedAdapters [] where
  unambiguous := unambiguous_of_nodup nodup_nil nodup_nil
  kept := by
    rintro _ _ _ ⟨_,hmem,-⟩
    cases hmem
  dropped _ _ _ _ _ hmem := by cases hmem

/-- A directive that authorizes one player. -/
def onePlayer : Payload := .players [.object (some "local") (some true) (some ⟨some "cloud",some "token"⟩)]

def handleOne : List Event := [.proceed,.proceed,.proceed,.execute,.execute]

/-- The step is not a directive, and it is sound. -/
def soundly (s : Player) : Event → Bool
  | .directive _ => false
  | .proceed => decide (s.handling≠none) && (nextWithdrawn s).all fun localPlayerId =>
      ((pendingCalls s localPlayerId).findRev? (isFor localPlayerId)).all fun call => !call.authorized
  | .execute => decide (s.queue≠[])

theorem guarded_next (s : Player) (event : Event) (h : soundly s event=true) :
    Guarded (Step adapters) (Sound adapters) s event (s.next adapters event) := by
  cases event with
  | directive => cases h
  | proceed =>
    obtain ⟨hpossible,hsettled⟩ := and_eq_true_iff.mp h
    refine ⟨fun localPlayerId hmem call hcall => ?_,of_decide_eq_true hpossible,rfl⟩
    rw [Option.all_eq_true] at hsettled
    have hlast := hsettled localPlayerId hmem
    rw [Option.all_eq_true] at hlast
    exact (not_eq_true' _).mp (hlast call hcall)
  | execute => exact ⟨trivial,of_decide_eq_true h,rfl⟩

/-- The player is authorized, and when that is done it is not any longer. -/
theorem adapters_agree_one :
    ∃ s t : Player,Run (Guarded (Step ["local"]) (Sound ["local"])) create (.directive onePlayer::handleOne) s ∧
      received s.history=[⟨"local",true,"cloud","token"⟩] ∧ Agrees ["local"] s ∧
      Run (Guarded (Step ["local"]) (Sound ["local"])) create
        (.directive onePlayer::handleOne++.directive .withoutPlayers::[.proceed,.proceed,.proceed,.execute]) t ∧
      received t.history=[⟨"local",true,"cloud","token"⟩,⟨"local",false,"",""⟩] ∧ Agrees ["local"] t := by
  have hone : Run (Guarded (Step ["local"]) (Sound ["local"])) create [.directive onePlayer]
      (create.next ["local"] (.directive onePlayer)) := by
    refine Run.single ⟨consistent_empty (unambiguous_of_nodup ?_ ?_),rfl,rfl⟩
    · decide +kernel
    · decide +kernel
  have hfollow : canFollow soundly (next ["local"]) (create.next ["local"] (.directive onePlayer)) handleOne=true := by
    decide +kernel
  have hfirst := Run.follow guarded_next hone hfollow
  have hdirective : Step ["local"] (handleOne.foldl (next ["local"]) (create.next ["local"] (.directive onePlayer)))
      (.directive .withoutPlayers) _ := step_next _ _ _ (by decide)
  have hsecond := hfirst.allow hdirective (consistent_nil _)
  have hfollow' : canFollow soundly (next ["local"])
      ((handleOne.foldl (next ["local"]) (create.next ["local"] (.directive onePlayer))).next ["local"]
        (.directive .withoutPlayers)) [.proceed,.proceed,.proceed,.execute]=true := by decide
  have hlast := Run.follow guarded_next hsecond hfollow'
  rw [append_assoc] at hlast
  refine ⟨_,_,hfirst,by decide,(adapters_agree hfirst).1 ⟨?_,?_⟩,hlast,by decide,(adapters_agree hlast).1 ⟨?_,?_⟩⟩
  · decide +kernel
  · decide +kernel
  · decide +kernel
  · decide +kernel

/-- Authorized, and not any longer when the executor takes the task. -/
def withdrawnEarly : List Event :=
  [.directive onePlayer,.proceed,.proceed,.proceed,.directive .withoutPlayers,.proceed,.proceed,.proceed,.execute,
    .execute,.execute]

/-- The withdrawal is first, and the authorization last. -/
theorem authorization_outlives_withdrawal : ∃ s : Player,Run (Step ["local"]) create withdrawnEarly s ∧ Drained s ∧
      received s.history=[⟨"local",false,"",""⟩,⟨"local",true,"cloud","token"⟩] ∧
      s.authorizedAdapters=∅ ∧ ¬Agrees ["local"] s := by
  have hpossible : canFollow (fun s event => decide (Possible s event)) (next ["local"]) create withdrawnEarly =
      true := by decide
  have hrun := Run.follow (step_next ["local"]) Run.refl hpossible
  have hreceived : received (withdrawnEarly.foldl (next ["local"]) create).history =
      [⟨"local",false,"",""⟩,⟨"local",true,"cloud","token"⟩] := by decide
  have hmap : (withdrawnEarly.foldl (next ["local"]) create).authorizedAdapters=∅ :=
    ext (by decide)
  refine ⟨_,hrun,⟨by decide,by decide⟩,hreceived,hmap,fun hagrees => ?_⟩
  have hiff := hagrees "local" (mem_singleton_self _) "cloud"
  rw [hreceived,hmap] at hiff
  cases hiff.mp ⟨⟨"local",true,"cloud","token"⟩,by decide,rfl,rfl⟩

end AlexaClientSDK.ExternalMediaPlayer
