import AlexaClientSDK.FocusChannel
import AlexaClientSDK.PooledMediaPlayerFactory

/-!
# The audio player

Directives, focus changes and the callbacks of the media players each become one task of an executor; the model has a
function for every task. What a task asks of others is answered by an argument, and what is to be answered later is kept
with the state. Offsets, timers, captions, metrics and the promises of local operations are left out.
-/

namespace AlexaClientSDK.AudioPlayer

open FocusChannel PooledMediaPlayerFactory

/-- `ERROR_SOURCE_ID` is `none` wherever it may occur. -/
abbrev SourceId := ℕ

inductive PlayBehavior
  | replaceAll
  | enqueue
  | replaceEnqueued
deriving DecidableEq

inductive ClearBehavior
  | clearEnqueued
  | clearAll
deriving DecidableEq

/-- What an item wants when something else is heard. -/
inductive ItemMixing
  | behaviorPause
  | behaviorDuck
deriving DecidableEq

inductive PlayerActivity
  | idle
  | playing
  | stopped
  | paused
  | bufferUnderrun
  | finished
deriving DecidableEq

/-- The activities with a track that was started and has not ended. -/
def PlayerActivity.active : PlayerActivity → Bool
  | .playing | .paused | .bufferUnderrun => true
  | .idle | .stopped | .finished => false

inductive PlaybackOperation
  | stopPlayback
  | pausePlayback
  | resumePlayback
deriving DecidableEq

inductive ErrorType
  | none | mediaErrorUnknown | mediaErrorInvalidRequest | mediaErrorServiceUnavailable
  | mediaErrorInternalServerError | mediaErrorInternalDeviceError | mediaErrorHttpBadRequest
  | mediaErrorHttpUnauthorized | mediaErrorHttpForbidden | mediaErrorHttpNotFound
  | mediaErrorHttpConflict | mediaErrorHttpInvalidRange | mediaErrorHttpTooManyRequests
  | mediaErrorHttpBadGateway | mediaErrorHttpServiceUnavailable | mediaErrorHttpGatewayTimeout
  | mediaErrorTimedOut | mediaErrorUrlMalformed | mediaErrorCouldNotResolveHost
  | mediaErrorCouldNotConnect | mediaErrorNotSeekable | mediaErrorUnsupported
  | mediaErrorPossiblyText | mediaErrorIo | mediaErrorInvalidCommand | mediaErrorPlaylistError
deriving DecidableEq

/-- The events sent to the service, without offsets and playback reports. -/
inductive Message
  | playbackStarted (token : String)
  | playbackNearlyFinished (token : String)
  | playbackStutterStarted (token : String)
  | playbackStutterFinished (token : String)
  | playbackFinished (token : String)
  | playbackFailed (failingToken token : String) (activity : PlayerActivity) (type : ErrorType) (message : String)
  | playbackStopped (token : String)
  | playbackPaused (token : String)
  | playbackResumed (token : String)
  | playbackQueueCleared

/-- `PlayDirectiveInfo`, with the members of its audio item that are read. -/
structure Item (π : Type) where
  messageId : String
  playBehavior : PlayBehavior
  mixingBehavior : ItemMixing
  audioItemId : String
  /-- `audioItem.stream.url`. -/
  url : String
  /-- There is an `audioItem.stream.reader`. -/
  reader : Bool
  /-- `audioItem.stream.token`. -/
  token : String
  /-- `audioItem.stream.expectedPreviousToken`. -/
  expectedPreviousToken : String
  mediaPlayer : Option π
  sourceId : Option SourceId
  errorMsg : String
  errorType : ErrorType
  isBuffered : Bool

/-- What was asked of the focus manager. -/
inductive ChannelRequest
  | acquire
  | release
deriving DecidableEq

/-- What a media player was asked for and calls back about. -/
inductive Reply
  | started
  | stopped
deriving DecidableEq

/-- The answers a task gets; those that are given repeatedly are numbered by how many items are left in the
queue. -/
structure Answers where
  /-- What `setSource` returns, for a stream or a URL. -/
  setSource : ℕ → Option SourceId
  play : ℕ → Bool
  stop : Bool
  resume : Bool
  acquireChannel : Bool
  /-- Less than 500 milliseconds were played. -/
  early : ℕ → Bool

/-- Everything that is asked for succeeds, and a source gets the given number. -/
def Answers.success (id : SourceId) : Answers where
  setSource := fun _ => some id
  play := fun _ => true
  stop := true
  resume := true
  acquireChannel := true
  early := fun _ => false

structure Player (π : Type) where
  mediaPlayerFactory : Factory π
  currentlyPlaying : Item π
  audioPlayQueue : List (Item π)
  currentActivity : PlayerActivity
  focus : FocusState
  mixingBehavior : MixingBehavior
  currentMixability : ContentType
  isStopCalled : Bool
  playNextItemAfterStopped : Bool
  isStartingPlayback : Bool
  isAcquireChannelRequestPending : Bool
  isLocalResumePending : Bool
  okToRequestNextTrack : Bool
  /-- The tasks `executeOnPlaybackFinished` submitted that have not run. -/
  finishing : ℕ
  /-- The requests the focus manager has not answered, oldest first. -/
  requests : List ChannelRequest
  /-- The callbacks the media players owe. -/
  awaited : List (SourceId × Reply)
  messages : List Message

variable {π : Type}

/-- A `PlayDirectiveInfo` as its constructor leaves it. -/
def Item.create (messageId : String) : Item π where
  messageId := messageId
  playBehavior := .enqueue
  mixingBehavior := .behaviorPause
  audioItemId := ""
  url := ""
  reader := false
  token := ""
  expectedPreviousToken := ""
  mediaPlayer := none
  sourceId := none
  errorMsg := ""
  errorType := .none
  isBuffered := false

/-- `releaseMediaPlayer`, as far as the item is concerned. -/
def Item.released (item : Item π) : Item π :=
  match item.mediaPlayer with
  | some _ => {item with mediaPlayer := none,sourceId := none}
  | none => item

theorem released_mediaPlayer (item : Item π) : item.released.mediaPlayer=none := by
  unfold Item.released
  cases hplayer : item.mediaPlayer with
  | none => exact hplayer
  | some => rfl

/-- It takes over the player of the item that it replaces. -/
def Item.adopt (info existing : Item π) : Item π :=
  {info with mediaPlayer := existing.mediaPlayer,sourceId := existing.sourceId}

def Item.abandon (existing : Item π) : Item π := {existing with mediaPlayer := none}

def compareUrlNotQuery (url1 url2 : String) : Bool :=
  let p1 := url1.toList.idxOf? '?'
  let p2 := url2.toList.idxOf? '?'
  if p1≠p2 then false
  else
    match p1 with
    | none => url1 == url2
    | some p => url1.toList.take p == url2.toList.take p

def Item.repeats (info existing : Item π) : Bool :=
  existing.audioItemId == info.audioItemId && compareUrlNotQuery existing.url info.url

/-- The item and the queue after `executePrePlay` has looked for the same audio. An item behind the front takes
its place as well, and one of the two has lost its player. -/
def handOver (info : Item π) : List (Item π) → Option (Item π × List (Item π))
  | [] => none
  | front::rest =>
    if info.repeats front then some (info.adopt front,front.abandon::rest)
    else
      match rest.find? info.repeats with
      | none => none
      | some it =>
        some (info.adopt it,it.abandon ::
          rest.replaceF fun other => if info.repeats other then some other.abandon else none)

/-- The constructor does not set `m_playNextItemAfterStopped`. -/
def create (pool : List π) (playNextItemAfterStopped : Bool) : Player π where
  mediaPlayerFactory := PooledMediaPlayerFactory.create pool
  currentlyPlaying := Item.create ""
  audioPlayQueue := []
  currentActivity := .idle
  focus := .none
  mixingBehavior := .undefined
  currentMixability := .undefined
  isStopCalled := false
  playNextItemAfterStopped := playNextItemAfterStopped
  isStartingPlayback := false
  isAcquireChannelRequestPending := false
  isLocalResumePending := false
  okToRequestNextTrack := false
  finishing := 0
  requests := []
  awaited := []
  messages := []

namespace Player

section

variable (s : Player π)

def send (message : Message) : Player π := {s with messages := s.messages++[message]}

def sendPlaybackFailedEvent (failingToken : String) (type : ErrorType) (message : String) : Player π :=
  s.send (.playbackFailed failingToken s.currentlyPlaying.token s.currentActivity type message)

def sendPlaybackNearlyFinishedEvent : Player π :=
  s.send (.playbackNearlyFinished s.currentlyPlaying.token)

/-- The focus manager is asked for the channel or to take it back. -/
def request (r : ChannelRequest) : Player π := {s with requests := s.requests++[r]}

/-- A player that will start or stop a source and call back. -/
def await (id : Option SourceId) (reply : Reply) : Player π :=
  match id with
  | some id => {s with awaited := s.awaited++[(id,reply)]}
  | none => s

def handlePlaybackCompleted : Player π :=
  if s.focus≠.none then s.request .release else s

def executeStop (playNextItem : Bool) (a : Answers) : Player π :=
  if s.currentActivity.active then
    let s := {s with playNextItemAfterStopped := playNextItem}
    match s.currentlyPlaying.mediaPlayer with
    | some _ => if a.stop then {s with isStopCalled := true}.await s.currentlyPlaying.sourceId .stopped else s
    | none => {s with isStopCalled := true}
  else s

/-- A callback that is awaited changes nothing else. -/
theorem await_eq (id : Option SourceId) (reply : Reply) :
    s.await id reply={s with awaited := (s.await id reply).awaited} := by
  cases id with
  | none => rfl
  | some => rfl

/-- A completed playback may release the channel and changes nothing else. -/
theorem handlePlaybackCompleted_eq :
    s.handlePlaybackCompleted={s with requests := s.handlePlaybackCompleted.requests} := by
  unfold handlePlaybackCompleted
  split
  · rfl
  · rfl

theorem executeStop_eq (playNextItem : Bool) (a : Answers) : s.executeStop playNextItem a =
      {s with
        playNextItemAfterStopped := (s.executeStop playNextItem a).playNextItemAfterStopped
        isStopCalled := (s.executeStop playNextItem a).isStopCalled
        awaited := (s.executeStop playNextItem a).awaited} := by
  unfold executeStop
  split
  · dsimp only
    split
    · split
      · rw [await_eq]
      · rfl
    · rfl
  · rfl

/-- Whether it succeeded, and what has become of the item. -/
def configureMediaPlayer (item : Item π) (setSource : Option SourceId) : Bool × Player π × Item π :=
  if item.mediaPlayer.isSome then (true,s,item)
  else
    match s.mediaPlayerFactory.acquireMediaPlayer with
    | (none,_) => (false,s,item)
    | (some player,factory) =>
      let s := {s with mediaPlayerFactory := factory}
      match setSource with
      | some id => (true,s,{item with reader := false,mediaPlayer := some player,sourceId := some id})
      | none =>
        let kind := if item.reader then "attachment" else "URL"
        (false,s.sendPlaybackFailedEvent item.token .mediaErrorInternalDeviceError
          ("failed to set " ++ kind ++ " media source"),{item with reader := false})

theorem configureMediaPlayer_failed {s : Player π} {item : Item π} {setSource : Option SourceId}
    (hfailed : (s.configureMediaPlayer item setSource).1=false) :
    (s.configureMediaPlayer item setSource).2.2.mediaPlayer=none := by
  revert hfailed
  unfold configureMediaPlayer
  split
  · exact nofun
  · next hnone =>
    rw [Option.not_isSome_iff_eq_none] at hnone
    split
    · intro _
      exact hnone
    · cases setSource with
      | none =>
        intro _
        exact hnone
      | some => exact nofun

theorem configureMediaPlayer_eq (item : Item π) (setSource : Option SourceId) :
    (s.configureMediaPlayer item setSource).2.1 =
      {s with
        mediaPlayerFactory := (s.configureMediaPlayer item setSource).2.1.mediaPlayerFactory
        messages := (s.configureMediaPlayer item setSource).2.1.messages} := by
  unfold configureMediaPlayer
  split
  · rfl
  · split
    · rfl
    · cases setSource with
      | none => rfl
      | some => rfl

end

variable [DecidableEq π]

/-- `releaseMediaPlayer`, as far as the factory is concerned. -/
def releaseMediaPlayer (s : Player π) (item : Item π) : Player π :=
  match item.mediaPlayer with
  | some player => {s with mediaPlayerFactory := (s.mediaPlayerFactory.releaseMediaPlayer player).2}
  | none => s

section

variable (s : Player π)

theorem releaseMediaPlayer_eq (item : Item π) : s.releaseMediaPlayer item =
      {s with mediaPlayerFactory := (s.releaseMediaPlayer item).mediaPlayerFactory} := by
  unfold releaseMediaPlayer
  cases item.mediaPlayer with
  | none => rfl
  | some => rfl

/-- The player no longer has an observer, whatever it answers. -/
def stopAndReleaseMediaPlayer (item : Item π) : Player π :=
  {s with isStartingPlayback := false}.releaseMediaPlayer item

section

variable (stopCurrentPlayer : Bool)

/-- One item of the loop of `clearPlayQueue`. -/
def clearItem (s : Player π) (item : Item π) : Player π :=
  if item.mediaPlayer.isSome then
    if !stopCurrentPlayer && item.sourceId == s.currentlyPlaying.sourceId then s.releaseMediaPlayer item
    else s.stopAndReleaseMediaPlayer item
  else s

def clearPlayQueue : Player π :=
  {s.audioPlayQueue.foldl (clearItem stopCurrentPlayer) s with audioPlayQueue := []}

/-- It touches neither the current item nor the queue. -/
theorem foldl_clearItem_eq (items : List (Item π)) (s : Player π) : items.foldl (clearItem stopCurrentPlayer) s =
      {s with
        mediaPlayerFactory := (items.foldl (clearItem stopCurrentPlayer) s).mediaPlayerFactory
        isStartingPlayback := (items.foldl (clearItem stopCurrentPlayer) s).isStartingPlayback} := by
  induction items generalizing s with
  | nil => rfl
  | cons item items ih =>
    have hitem : clearItem stopCurrentPlayer s item =
        {s with
          mediaPlayerFactory := (clearItem stopCurrentPlayer s item).mediaPlayerFactory
          isStartingPlayback := (clearItem stopCurrentPlayer s item).isStartingPlayback} := by
      unfold clearItem stopAndReleaseMediaPlayer
      split
      · split
        · rw [releaseMediaPlayer_eq]
        · rw [releaseMediaPlayer_eq]
      · rfl
    rw [List.foldl_cons,ih,hitem]

theorem clearPlayQueue_eq : s.clearPlayQueue stopCurrentPlayer =
      {s with
        mediaPlayerFactory := (s.clearPlayQueue stopCurrentPlayer).mediaPlayerFactory
        isStartingPlayback := (s.clearPlayQueue stopCurrentPlayer).isStartingPlayback
        audioPlayQueue := []} := by
  unfold clearPlayQueue
  rw [foldl_clearItem_eq]

end

/-- The task of `cancelDirective`. -/
def executeCancel (messageId : String) : Player π :=
  match s.audioPlayQueue.find? fun item => item.messageId == messageId with
  | none => s
  | some item =>
    {(if item.mediaPlayer.isSome then s.stopAndReleaseMediaPlayer item else s) with
      audioPlayQueue := s.audioPlayQueue.eraseP fun item => item.messageId == messageId}

def executeOnReadyToProvideNextPlayer (a : Answers) : Player π :=
  if s.mediaPlayerFactory.isMediaPlayerAvailable then
    if s.audioPlayQueue.isEmpty && s.okToRequestNextTrack then
      {s.sendPlaybackNearlyFinishedEvent with okToRequestNextTrack := false}
    else
      match s.audioPlayQueue.span fun item => item.mediaPlayer.isSome with
      | (_,[]) => s
      | (before,item::rest) =>
        let (_,s,item) := s.configureMediaPlayer item (a.setSource rest.length)
        {s with audioPlayQueue := before++item::rest}
  else s

def executeOnPlaybackStopped (playNextItem : Player π → Player π) (s : Player π) (id : Option SourceId) : Player π :=
  if id≠s.currentlyPlaying.sourceId then s
  else if s.currentActivity.active then
    let s := {s with currentActivity := .stopped}.send (.playbackStopped s.currentlyPlaying.token)
    let s := {s with okToRequestNextTrack := false,isStopCalled := false}
    if !s.playNextItemAfterStopped || s.audioPlayQueue.isEmpty then s.handlePlaybackCompleted
    else if s.focus=.foreground then playNextItem s
    else s
  else if s.focus≠.none then s.handlePlaybackCompleted
  else s

def executeOnPlaybackError (playNextItem : Player π → Player π) (s : Player π) (id : Option SourceId)
    (type : ErrorType) (error : String) (a : Answers) : Player π :=
  let s := {s with isStartingPlayback := false}
  if id≠s.currentlyPlaying.sourceId then
    {s with audioPlayQueue := s.audioPlayQueue.replaceF fun item =>
        if item.sourceId=id then some {item with errorMsg := error,errorType := type} else none}
  else
    let s := {s with okToRequestNextTrack := false}
    let s :=
      if s.currentActivity≠.idle ∧ (a.early s.audioPlayQueue.length=true ∨
          (s.currentActivity≠.stopped ∧ s.currentActivity≠.finished)) then
        s.sendPlaybackFailedEvent s.currentlyPlaying.token type error
      else s
    s.executeOnPlaybackStopped playNextItem s.currentlyPlaying.sourceId

def mixability (item : Item π) : ContentType :=
  if item.mixingBehavior=.behaviorPause then .nonmixable else .mixable

/-- The channel is told if the content of the new current item differs. -/
def makeCurrent (item : Item π) : Player π :=
  {s.releaseMediaPlayer s.currentlyPlaying with
    currentlyPlaying := item,currentMixability := mixability item}

/-- It gets a player, if it has none: whether `playNextItem` goes on. -/
def configureCurrent (setSource : Option SourceId) : Bool × Player π :=
  if s.currentlyPlaying.mediaPlayer.isNone && s.mediaPlayerFactory.isMediaPlayerAvailable then
    let (configured,s,item) := s.configureMediaPlayer s.currentlyPlaying setSource
    (configured,{s with currentlyPlaying := item})
  else (true,s)

theorem makeCurrent_eq (item : Item π) : s.makeCurrent item =
      {s with
        mediaPlayerFactory := (s.releaseMediaPlayer s.currentlyPlaying).mediaPlayerFactory
        currentlyPlaying := item
        currentMixability := mixability item} := by
  unfold makeCurrent
  rw [releaseMediaPlayer_eq]

end

omit [DecidableEq π] in
theorem configureCurrent_eq (s : Player π) (setSource : Option SourceId) : (s.configureCurrent setSource).2 =
      {s with
        mediaPlayerFactory := (s.configureCurrent setSource).2.mediaPlayerFactory
        currentlyPlaying := (s.configureCurrent setSource).2.currentlyPlaying
        messages := (s.configureCurrent setSource).2.messages} := by
  unfold configureCurrent
  split
  · dsimp only
    rw [configureMediaPlayer_eq]
  · rfl

/-- `playNextItem` with a current item, for what it does with the queue. -/
def playCurrent (playNextItem : Player π → Player π) (s : Player π) (a : Answers) : Player π :=
  let n := s.audioPlayQueue.length
  match s.configureCurrent (a.setSource n) with
  | (false,s) => s
  | (true,s) =>
    if s.currentlyPlaying.mediaPlayer.isNone then
      s.sendPlaybackFailedEvent s.currentlyPlaying.token .mediaErrorInternalDeviceError "player not configured"
    else if s.currentlyPlaying.errorMsg ≠ "" then
      s.executeOnPlaybackError playNextItem s.currentlyPlaying.sourceId s.currentlyPlaying.errorType
        s.currentlyPlaying.errorMsg a
    else if a.play n then {s with isStartingPlayback := true}.await s.currentlyPlaying.sourceId .started
    else
      s.executeOnPlaybackError playNextItem s.currentlyPlaying.sourceId .mediaErrorInternalDeviceError "playFailed" a

/-- `playNextItem`, which comes back to itself with one item less. -/
def playItems (a : Answers) : List (Item π) → Player π → Player π
  | [],s =>
    (s.sendPlaybackFailedEvent s.currentlyPlaying.token .mediaErrorInternalDeviceError
      "queu(int64_t)std::chrono::duration_cast<std::chrono::milliseconds>(offset).count()e is empty").executeStop
      false a
  | item::rest,s => ({s with audioPlayQueue := rest}.makeCurrent item).playCurrent (playItems a rest) a

section

variable (s : Player π)

section

variable (a : Answers)

def playNextItem : Player π := playItems a s.audioPlayQueue s

def executeOnPlaybackStarted (id : Option SourceId) (a : Answers) : Player π :=
  let s := {s with isStartingPlayback := false}
  if id≠s.currentlyPlaying.sourceId then s
  else if s.focus=.none then
    if a.stop then s.await s.currentlyPlaying.sourceId .stopped else s
  else
    let s := {s.send (.playbackStarted s.currentlyPlaying.token) with currentActivity := .playing}
    if s.mediaPlayerFactory.isMediaPlayerAvailable && s.currentlyPlaying.isBuffered then
      s.sendPlaybackNearlyFinishedEvent
    else {s with okToRequestNextTrack := true}

def executeOnBufferingComplete (id : Option SourceId) : Player π :=
  if id≠s.currentlyPlaying.sourceId then
    {s with audioPlayQueue := s.audioPlayQueue.replaceF fun item =>
        if item.sourceId=id then some {item with isBuffered := true} else none}
  else if s.mediaPlayerFactory.isMediaPlayerAvailable && s.okToRequestNextTrack then
    {s.sendPlaybackNearlyFinishedEvent with okToRequestNextTrack := false}
  else {s with currentlyPlaying := {s.currentlyPlaying with isBuffered := true}}

/-- `executeOnPlaybackFinished`, up to the task it submits. -/
def executeOnPlaybackFinished (id : Option SourceId) : Player π :=
  if id≠s.currentlyPlaying.sourceId then s
  else if s.currentActivity=.playing then
    let s := {s with currentActivity := .finished}
    let s :=
      if s.audioPlayQueue.isEmpty then
        {s.releaseMediaPlayer s.currentlyPlaying with currentlyPlaying := s.currentlyPlaying.released}
      else s
    {s with finishing := s.finishing+1}
  else s

/-- The task `executeOnPlaybackFinished` submits. -/
def executeFinish : Player π :=
  let s := {s with finishing := s.finishing-1}
  let s := if s.okToRequestNextTrack then s.sendPlaybackNearlyFinishedEvent else s
  let s := {s.send (.playbackFinished s.currentlyPlaying.token) with okToRequestNextTrack := false}
  if s.audioPlayQueue.isEmpty then s.handlePlaybackCompleted else s.playNextItem a

def executeOnPlaybackPaused (id : Option SourceId) : Player π :=
  if id≠s.currentlyPlaying.sourceId then s
  else {s.send (.playbackPaused s.currentlyPlaying.token) with currentActivity := .paused}

def executeOnPlaybackResumed (id : Option SourceId) : Player π :=
  if id≠s.currentlyPlaying.sourceId then s
  else if s.currentActivity=.stopped then s
  else {s.send (.playbackResumed s.currentlyPlaying.token) with currentActivity := .playing}

def executeOnBufferUnderrun (id : Option SourceId) : Player π :=
  if id≠s.currentlyPlaying.sourceId then s
  else if s.currentActivity=.bufferUnderrun then s
  else {s.send (.playbackStutterStarted s.currentlyPlaying.token) with currentActivity := .bufferUnderrun}

def executeOnBufferRefilled (id : Option SourceId) : Player π :=
  if id≠s.currentlyPlaying.sourceId then s
  else {s.send (.playbackStutterFinished s.currentlyPlaying.token) with currentActivity := .playing}

/-- `sendPlaybackSeekedEvent` sends one of two other events. -/
def executeOnSeeked (id : Option SourceId) : Player π :=
  if id≠s.currentlyPlaying.sourceId then s
  else
    let s :=
      if s.currentActivity=.bufferUnderrun then
        {s.send (.playbackStutterFinished s.currentlyPlaying.token) with currentActivity := .playing}
      else s
    if s.currentActivity=.playing then s.send (.playbackStarted s.currentlyPlaying.token)
    else s.send (.playbackStopped s.currentlyPlaying.token)

/-- The token `executePrePlay` compares with the expected one. -/
def previousToken : String :=
  match s.audioPlayQueue.getLast? with
  | none => s.currentlyPlaying.token
  | some last => last.token

/-- The end of `executePrePlay`. -/
def pushItem (info : Item π) : Player π :=
  let s :=
    match info.playBehavior with
    | .replaceAll | .replaceEnqueued => s.clearPlayQueue false
    | .enqueue => s
  {s with audioPlayQueue := s.audioPlayQueue++[info]}

def frontWaits : Bool :=
  match s.audioPlayQueue with
  | [] => false
  | front::_ => front.mediaPlayer.isNone

def executePrePlay (info : Item π) (a : Answers) : Player π :=
  if info.expectedPreviousToken ≠ "" ∧ s.previousToken≠info.expectedPreviousToken then s
  else
    match if info.playBehavior=.enqueue then none else handOver info s.audioPlayQueue with
    | some (info,queue) => {s with audioPlayQueue := queue}.pushItem info
    | none =>
      if s.mediaPlayerFactory.isMediaPlayerAvailable && !s.frontWaits then
        match s.configureMediaPlayer info (a.setSource s.audioPlayQueue.length) with
        | (false,s,_) => s
        | (true,s,info) => s.pushItem info
      else s.pushItem info

/-- The task of `preHandlePlayDirective`. -/
def preHandlePlay (info : Item π) (a : Answers) : Player π :=
  if s.audioPlayQueue.any fun item => item.messageId == info.messageId then s
  else s.executePrePlay info a

def executePlay (messageId : String) (a : Answers) : Player π :=
  match s.audioPlayQueue with
  | [] => s
  | playItem::_ =>
    if playItem.playBehavior≠.enqueue ∧ playItem.messageId≠messageId then s
    else
      let s := if playItem.playBehavior=.replaceAll then s.executeStop true a else s
      match s.currentActivity with
      | .idle | .stopped | .finished =>
        if s.focus=.none then
          if s.isAcquireChannelRequestPending then s
          else if a.acquireChannel then {s with currentMixability := mixability playItem}.request .acquire
          else
            s.sendPlaybackFailedEvent playItem.token .mediaErrorInternalDeviceError
              "Could not acquire Content for AudioPlayer"
        else s
      | .paused =>
        if s.focus=.background ∧ a.acquireChannel=true then
          {s with isAcquireChannelRequestPending := true}.request .acquire
        else s
      | .playing | .bufferUnderrun => s

def executeClearQueue (clearBehavior : ClearBehavior) (a : Answers) : Player π :=
  let s :=
    match clearBehavior with
    | .clearAll => (s.executeStop false a).clearPlayQueue false
    | .clearEnqueued => s.clearPlayQueue true
  s.send .playbackQueueCleared

def executeDeregistered : Player π := (s.executeStop false a).clearPlayQueue false

def executeLocalOperation (op : PlaybackOperation) (a : Answers) : Player π :=
  if s.currentlyPlaying.mediaPlayer.isSome && s.currentlyPlaying.sourceId.isSome then
    match s.currentActivity with
    | .stopped =>
      if op=.resumePlayback then
        if s.focus≠.foreground then
          if s.isAcquireChannelRequestPending then {s with isLocalResumePending := true}
          else if a.acquireChannel then
            {s with isAcquireChannelRequestPending := true,isLocalResumePending := true}.request .acquire
          else
            s.sendPlaybackFailedEvent s.currentlyPlaying.token .mediaErrorInternalDeviceError
              "Could not acquire Content for AudioPlayer"
        else if a.play s.audioPlayQueue.length then s.await s.currentlyPlaying.sourceId .started
        else s
      else s
    | .idle | .finished => s
    | .playing | .paused | .bufferUnderrun =>
      if op≠.resumePlayback then
        let s := {s with isStopCalled := a.stop}
        if a.stop then s.await s.currentlyPlaying.sourceId .stopped else s
      else s
  else s

/-- `executeOnFocusChanged` for `FOREGROUND`. -/
def onForeground : Player π :=
  let s := {s with isAcquireChannelRequestPending := false}
  if s.isLocalResumePending then
    let s := {s with isLocalResumePending := false}
    if s.currentlyPlaying.mediaPlayer.isSome && s.currentlyPlaying.sourceId.isSome &&
        a.play s.audioPlayQueue.length then
      s.await s.currentlyPlaying.sourceId .started
    else s.request .release
  else
    match s.currentActivity with
    | .idle | .stopped | .finished =>
      if !s.audioPlayQueue.isEmpty && !s.isStartingPlayback then s.playNextItem a else s
    | .paused =>
      if s.isStopCalled || a.resume then s
      else
        (s.sendPlaybackFailedEvent s.currentlyPlaying.token .mediaErrorInternalDeviceError
          "failed to resume media player").request .release
    | .playing | .bufferUnderrun => s

/-- What comes of attenuating or pausing the source is not read. -/
def onBackground (previousFocus : FocusState) (a : Answers) : Player π :=
  let s := {s with isAcquireChannelRequestPending := false}
  if s.currentActivity=.stopped ∧ s.playNextItemAfterStopped=true ∧ s.audioPlayQueue≠[] then
    {s with playNextItemAfterStopped := false}
  else if s.currentActivity.active then s
  else
    match s.audioPlayQueue with
    | [] => s
    | front::_ =>
      if previousFocus=.none ∧ front.mixingBehavior=.behaviorDuck ∧ s.isStartingPlayback=false then
        s.playNextItem a
      else s

/-- `executeOnFocusChanged` for `NONE`. -/
def onNone : Player π :=
  if s.currentActivity.active && !s.isAcquireChannelRequestPending then
    (s.clearPlayQueue false).executeStop false a
  else s

end

def executeOnFocusChanged (newFocus : FocusState) (behavior : MixingBehavior) (a : Answers) : Player π :=
  if s.focus=newFocus ∧ s.mixingBehavior=behavior then s
  else
    let previousFocus := s.focus
    let s := {s with focus := newFocus,mixingBehavior := behavior}
    match newFocus with
    | .foreground => s.onForeground a
    | .background => s.onBackground previousFocus a
    | .none => s.onNone a

/-- A media player reports that a source was started. -/
def discharge (id : SourceId) (reply : Reply) : Player π :=
  {s with awaited := s.awaited.filter fun owed => owed≠(id,reply)}

/-- A player whose source is stopped or has failed reports nothing more. -/
def dischargeAll (id : SourceId) : Player π :=
  {s with awaited := s.awaited.filter fun owed => owed.1≠id}

end

end Player

inductive PlayerTask (π : Type)
  | preHandlePlay (info : Item π) (a : Answers)
  | play (messageId : String) (a : Answers)
  | stop (a : Answers)
  | clearQueue (clearBehavior : ClearBehavior) (a : Answers)
  | cancel (messageId : String)
  | deregistered (a : Answers)
  | acquired (background : Bool) (behavior : MixingBehavior) (a : Answers)
  | released (behavior : MixingBehavior) (a : Answers)
  | focusChanged (newFocus : FocusState) (behavior : MixingBehavior) (a : Answers)
  | playbackStarted (id : SourceId) (a : Answers)
  | playbackStopped (id : SourceId) (a : Answers)
  | playbackFinished (id : SourceId)
  | playbackError (id : SourceId) (type : ErrorType) (error : String) (a : Answers)
  | playbackPaused (id : SourceId)
  | playbackResumed (id : SourceId)
  | bufferUnderrun (id : SourceId)
  | bufferRefilled (id : SourceId)
  | seeked (id : SourceId)
  | bufferingComplete (id : SourceId)
  | readyToProvideNextPlayer (a : Answers)
  /-- The task `executeOnPlaybackFinished` submitted. -/
  | finish (a : Answers)
  | localOperation (op : PlaybackOperation) (a : Answers)

/-- The directive was just parsed into the item. -/
def Item.Fresh (info : Item π) : Prop :=
  info.mediaPlayer=none ∧ info.sourceId=none ∧ info.errorMsg = "" ∧ info.isBuffered=false

/-- The focus manager answers the requests in their order. -/
def Possible (s : Player π) : PlayerTask π → Prop
  | .preHandlePlay info _ => info.Fresh
  | .acquired .. => s.requests.head?=some .acquire
  | .released .. => s.requests.head?=some .release
  | .finish _ => 0<s.finishing
  | _ => True

/-- A release without focus finds the channel taken away. -/
def Player.perform [DecidableEq π] (s : Player π) : PlayerTask π → Player π
  | .preHandlePlay info a => s.preHandlePlay info a
  | .play messageId a => s.executePlay messageId a
  | .stop a => s.executeStop false a
  | .clearQueue clearBehavior a => s.executeClearQueue clearBehavior a
  | .cancel messageId => s.executeCancel messageId
  | .deregistered a => s.executeDeregistered a
  | .acquired background behavior a =>
    {s with requests := s.requests.tail}.executeOnFocusChanged
      (if background then .background else .foreground) behavior a
  | .released behavior a =>
    let s := {s with requests := s.requests.tail}
    if s.focus=.none then s else s.executeOnFocusChanged .none behavior a
  | .focusChanged newFocus behavior a => s.executeOnFocusChanged newFocus behavior a
  | .playbackStarted id a => (s.discharge id .started).executeOnPlaybackStarted (some id) a
  | .playbackStopped id a =>
    (s.dischargeAll id).executeOnPlaybackStopped (fun s => s.playNextItem a) (some id)
  | .playbackFinished id => s.executeOnPlaybackFinished (some id)
  | .playbackError id type error a =>
    (s.dischargeAll id).executeOnPlaybackError (fun s => s.playNextItem a) (some id) type error a
  | .playbackPaused id => s.executeOnPlaybackPaused (some id)
  | .playbackResumed id => s.executeOnPlaybackResumed (some id)
  | .bufferUnderrun id => s.executeOnBufferUnderrun (some id)
  | .bufferRefilled id => s.executeOnBufferRefilled (some id)
  | .seeked id => s.executeOnSeeked (some id)
  | .bufferingComplete id => s.executeOnBufferingComplete (some id)
  | .readyToProvideNextPlayer a => s.executeOnReadyToProvideNextPlayer a
  | .finish a => s.executeFinish a
  | .localOperation op a => s.executeLocalOperation op a

def Step [DecidableEq π] (s : Player π) (task : PlayerTask π) (t : Player π) : Prop :=
  Possible s task ∧ t=s.perform task

theorem step_perform [DecidableEq π] {s : Player π} (task : PlayerTask π) (h : Possible s task) :
    Step s task (s.perform task) :=
  ⟨h,rfl⟩

end AlexaClientSDK.AudioPlayer
