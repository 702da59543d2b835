import AlexaClientSDK.Playlists

/-!
# The iterative playlist parser

Each call of `next` gives one entry. The queue holds the entries that were found and the playlists to be requested; a
live one stays at the end. What was found before is left out with the help of the last URL.
-/

namespace AlexaClientSDK.IterativePlaylistParser

open Playlists

structure Parser where
  playQueue : List PlayItem
  lastUrl : String
  abort : Bool

def initializeParsing (url : String) : Option Parser :=
  if url = "" then none else some ⟨[.playlistURL url],"",false⟩

/-- A media playlist: its new entries come to the front of the queue. -/
def Parser.mediaPlaylist (p : Parser) (url : String) (content : M3UContent) : Parser :=
  let found := if p.lastUrl = "" then content.entries
    else content.entries.drop (startPointForNewURLsAdded content.entries p.lastUrl)
  let playQueue := found.map .mediaInfo++p.playQueue
  {p with
    playQueue := if content.isLive then playQueue++[.playlistURL url] else playQueue
    lastUrl := backUrl content.entries}

/-- The URLs of a PLS playlist, of which the last one is the end. -/
def childEntries : List String → List PlaylistEntry
  | [] => []
  | [url] => [⟨url,INVALID_DURATION,.finished,.mediaInfo,(0,0),{}⟩]
  | url::urls => ⟨url,INVALID_DURATION,.stillOngoing,.mediaInfo,(0,0),{}⟩::childEntries urls

/-- For a URL that was taken from the queue: the parser goes on, or `next` returns. -/
def Parser.visit (p : Parser) (url : String) : Response → Parser × Option PlaylistEntry
  | .shutdown => ({p with abort := true},some (createErrorEntry ""))
  | .failed => (p,some (createErrorEntry url))
  | .m3u _ none => (p,some (createErrorEntry url))
  | .m3u isExtendedM3U (some content) =>
    if content.isEmpty then (p,some (createErrorEntry url))
    else if isExtendedM3U then
      match content.variantURLs with
      | first::_ => ({p with playQueue := .playlistURL first::p.playQueue},none)
      | [] => (p.mediaPlaylist url content,none)
    else
      ({p with playQueue := content.entries.map (fun entry => .playlistURL entry.url)++p.playQueue},none)
  | .pls none => (p,some (createErrorEntry url))
  | .pls (some []) => (p,some (createErrorEntry url))
  | .pls (some childrenUrls) =>
    ({p with playQueue := (childEntries childrenUrls).map .mediaInfo++p.playQueue},none)
  | .audio => (p,some ⟨url,INVALID_DURATION,parseResult p.playQueue,.mediaInfo,(0,0),{}⟩)

/-- What `next` returns without a request. -/
def Parser.ready (p : Parser) : Option (PlaylistEntry × Parser) :=
  if p.abort then some (createErrorEntry "",p)
  else
    match p.playQueue with
    | [] => some (createErrorEntry "",p)
    | .mediaInfo entry::playQueue => some (entry,{p with playQueue := playQueue})
    | .playlistURL _::_ => none

/-- `next`, with what its requests come back with, up to the last response there is. -/
def Parser.next (p : Parser) : List Response → Option (PlaylistEntry × Parser × List Response)
  | [] => p.ready.map fun returned => (returned.1,returned.2,[])
  | response::responses =>
    match p.ready,p.playQueue with
    | some returned,_ => some (returned.1,returned.2,response::responses)
    | none,.playlistURL url::playQueue =>
      match {p with playQueue := playQueue}.visit url response with
      | (parser,some entry) => some (entry,parser,responses)
      | (parser,none) => parser.next responses
    | none,_ => none

/-- What a number of calls of `next` return, as far as they do. -/
def Parser.calls (p : Parser) (responses : List Response) : ℕ → List PlaylistEntry
  | 0 => []
  | n+1 =>
    match p.next responses with
    | some (entry,parser,rest) => entry::parser.calls rest n
    | none => []

end AlexaClientSDK.IterativePlaylistParser
