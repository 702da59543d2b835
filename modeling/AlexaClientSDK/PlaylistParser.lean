import AlexaClientSDK.Playlists

/-!
# The recursive playlist parser

`doDepthFirstSearch` follows the URLs of a playlist to the media, and tells its observer of every entry. A live playlist
is requested again and again. What was told is left out with the help of the last URL, media sequence and number of
fragments.
-/

namespace AlexaClientSDK.PlaylistParser

open Playlists

/-- The local variables of `doDepthFirstSearch`. -/
structure Search where
  playQueue : List PlayItem
  lastUrlParsed : String
  lastMediaSequence : ℤ
  lastNumberOfFragments : ℤ

def Search.new (rootUrl : String) : Search where
  playQueue := [.playlistURL rootUrl]
  lastUrlParsed := ""
  lastMediaSequence := INVALID_MEDIA_SEQUENCE
  lastNumberOfFragments := 0

/-- What the observer is told of, and what is kept. The first playlist is told as it is; one that is not after
the last is ignored, and so is one with a gap, unless the gap is as long as the last playlist. -/
def Search.mediaPlaylist (s : Search) (content : M3UContent) : List PlaylistEntry × Search :=
  if content.hasMediaSequence ∧ content.mediaSequence ≤ s.lastMediaSequence then ([],s)
  else if s.lastUrlParsed = "" then (content.entries,{s with lastUrlParsed := backUrl content.entries})
  else
    let start := startPointForNewURLsAdded content.entries s.lastUrlParsed
    let told := (content.entries.drop start,{s with lastUrlParsed := backUrl content.entries})
    if content.hasMediaSequence then
      if (s.lastMediaSequence+1<content.mediaSequence ∧ start=0) ∧
          content.mediaSequence-s.lastMediaSequence≠s.lastNumberOfFragments then ([],s)
      else (told.1,{told.2 with
        lastMediaSequence := content.mediaSequence
        lastNumberOfFragments := content.entries.length})
    else told

/-- Without a new state the search ends. -/
def Search.visit (s : Search) (playlistTypesToNotBeParsed : List PlaylistType) (url : String) :
    Response → List PlaylistEntry × Option Search
  | .shutdown => ([createShutdownEntry url],none)
  | .failed => ([createErrorEntry url],none)
  | .m3u _ none => ([createErrorEntry url],none)
  | .m3u isExtendedM3U (some content) =>
    if (if isExtendedM3U then PlaylistType.extM3U else .m3u)∈playlistTypesToNotBeParsed then
      ([⟨url,INVALID_DURATION,parseResult s.playQueue,.mediaInfo,(0,0),{}⟩],some s)
    else if content.isEmpty then ([createErrorEntry url],none)
    else if isExtendedM3U then
      match content.variantURLs with
      | first::_ => ([],some {s with playQueue := .playlistURL first::s.playQueue})
      | [] =>
        let queued := if content.isLive then {s with playQueue := s.playQueue++[.playlistURL url]} else s
        let told := queued.mediaPlaylist content
        (told.1,some told.2)
    else
      ([],some {s with
        playQueue := content.entries.map (fun entry => .playlistURL entry.url)++s.playQueue})
  | .pls childrenUrls =>
    if .pls∈playlistTypesToNotBeParsed then
      ([⟨url,INVALID_DURATION,parseResult s.playQueue,.mediaInfo,(0,0),{}⟩],some s)
    else
      match childrenUrls with
      | none => ([createErrorEntry url],none)
      | some [] => ([createErrorEntry url],none)
      | some children => ([],some {s with playQueue := children.map .playlistURL++s.playQueue})
  | .audio => ([⟨url,INVALID_DURATION,parseResult s.playQueue,.audioContent,(0,0),{}⟩],some s)

/-- The media items at the front of the queue, and what is behind them. -/
def takeMedia : List PlayItem → List PlaylistEntry × List PlayItem
  | .mediaInfo entry::playQueue =>
    let taken := takeMedia playQueue
    (entry::taken.1,taken.2)
  | playQueue => ([],playQueue)

/-- The loop, with the responses to its requests up to the last one. -/
def Search.run (playlistTypesToNotBeParsed : List PlaylistType) (s : Search) : List Response → List PlaylistEntry
  | [] => (takeMedia s.playQueue).1
  | response::responses =>
    (takeMedia s.playQueue).1 ++
      match (takeMedia s.playQueue).2 with
      | .playlistURL url::playQueue =>
        let visited := {s with playQueue := playQueue}.visit playlistTypesToNotBeParsed url response
        visited.1 ++
          match visited.2 with
          | some next => next.run playlistTypesToNotBeParsed responses
          | none => []
      | _ => []

def doDepthFirstSearch (rootUrl : String) (playlistTypesToNotBeParsed : List PlaylistType)
    (responses : List Response) : List PlaylistEntry :=
  (Search.new rootUrl).run playlistTypesToNotBeParsed responses

end AlexaClientSDK.PlaylistParser
