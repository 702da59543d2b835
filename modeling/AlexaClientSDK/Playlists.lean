import Mathlib.Algebra.Group.Int.Defs
import Mathlib.Data.List.Basic

/-!
# Playlists

What the two playlist parsers work on: the entries of a playlist, the content of an M3U
playlist as `parseM3UContent` gives it, and what a request for a URL comes back with.
-/

namespace AlexaClientSDK.Playlists

inductive PlaylistParseResult
  | finished
  | error
  | stillOngoing
  | shutdown
  deriving DecidableEq

inductive Method
  | none
  | aes128
  | sampleAes
  deriving DecidableEq

/-- How the segments are encrypted. -/
structure EncryptionInfo where
  method : Method := .none
  keyURL : String := ""
  initVector : String := ""

inductive EntryType
  | mediaInfo
  | mediaInitInfo
  | audioContent
  deriving DecidableEq

def INVALID_DURATION : ℤ := -1

/-- `PlaylistEntry`, without the fetcher of its content. -/
structure PlaylistEntry where
  url : String
  duration : ℤ
  parseResult : PlaylistParseResult
  type : EntryType := .mediaInfo
  byteRange : ℤ × ℤ := (0,0)
  encryptionInfo : EncryptionInfo := {}

/-- The last entry of a search that fails. -/
def createErrorEntry (url : String) : PlaylistEntry where
  url := url
  duration := INVALID_DURATION
  parseResult := .error

/-- The last entry of a search that is shut down. -/
def createShutdownEntry (url : String) : PlaylistEntry where
  url := url
  duration := INVALID_DURATION
  parseResult := .shutdown

def INVALID_MEDIA_SEQUENCE : ℤ := -1

/-- What `parseM3UContent` finds in a playlist. -/
structure M3UContent where
  variantURLs : List String
  entries : List PlaylistEntry
  /-- There is no `EXT-X-ENDLIST`. -/
  isLive : Bool
  /-- The value of `EXT-X-MEDIA-SEQUENCE`. -/
  mediaSequence : ℤ

/-- Its URLs are those of other playlists. -/
def M3UContent.isMasterPlaylist (content : M3UContent) : Bool := !content.variantURLs.isEmpty

/-- The tag has been read. -/
def M3UContent.hasMediaSequence (content : M3UContent) : Bool := decide (INVALID_MEDIA_SEQUENCE≠content.mediaSequence)

def M3UContent.isEmpty (content : M3UContent) : Bool := content.entries.isEmpty && content.variantURLs.isEmpty

/-- What the parser has yet to tell or to request. -/
inductive PlayItem
  | playlistURL (url : String)
  | mediaInfo (playlistEntry : PlaylistEntry)

inductive PlaylistType
  | m3u
  | extM3U
  | pls
  deriving DecidableEq

/-- What a request for a URL comes back with. -/
inductive Response
  /-- The parser is shut down, or aborted, meanwhile. -/
  | shutdown
  /-- No header, or no success. -/
  | failed
  /-- The content type of an M3U playlist. The body may not come. -/
  | m3u (isExtendedM3U : Bool) (content : Option M3UContent)
  /-- The content type of a PLS playlist, with its URLs. The body may not come. -/
  | pls (childrenUrls : Option (List String))
  /-- Any other content type. -/
  | audio

/-- Nothing is left in the queue, or something is. -/
def parseResult (playQueue : List PlayItem) : PlaylistParseResult :=
  if playQueue.isEmpty then .finished else .stillOngoing

/-- Behind the first entry with a URL, or 0: the loop runs downwards. -/
def startPointForNewURLsAdded (entries : List PlaylistEntry) (lastUrl : String) : ℕ :=
  match entries.findIdx? fun entry => decide (entry.url=lastUrl) with
  | some i => i+1
  | none => 0

/-- The URL of the last entry. -/
def backUrl (entries : List PlaylistEntry) : String := (entries.getLast?.map PlaylistEntry.url).getD ""

end AlexaClientSDK.Playlists
