import AlexaClientSDK.Playlists
import AlexaClientSDK.StringUtils

/-!
# The M3U parser

`parseM3UContent` reads an M3U playlist line by line. Tags set what holds for the URLs behind them, and every URL becomes an
entry, or the URL of a variant in a master playlist.
-/

namespace AlexaClientSDK.M3UParser

open Playlists StringUtils

def EXT_M3U_PLAYLIST_HEADER : Text := "#EXTM3U".toList

def EXTXMEDIASEQUENCE : Text := "#EXT-X-MEDIA-SEQUENCE:".toList

def EXTINF : Text := "#EXTINF".toList

def EXTSTREAMINF : Text := "#EXT-X-STREAM-INF".toList

def ENDLIST : Text := "#EXT-X-ENDLIST".toList

def EXT_KEY : Text := "#EXT-X-KEY:".toList

def EXT_MAP : Text := "#EXT-X-MAP:".toList

def EXT_BYTERANGE : Text := "#EXT-X-BYTERANGE:".toList

def METHOD_ATTR : Text := "METHOD=".toList

def URI_ATTR : Text := "URI=\"".toList

def IV_ATTR : Text := "IV=".toList

def BYTERANGE_ATTR : Text := "BYTERANGE=\"".toList

def ENCRYPTION_METHOD_NONE : Text := "NONE".toList

def ENCRYPTION_METHOD_AES_128 : Text := "AES-128".toList

def ENCRYPTION_METHOD_SAMPLE_AES : Text := "SAMPLE-AES".toList

def URL_END_SCHEME_PATTERN : Text := "://".toList

def IV_HEX_STRING_LENGTH : ℕ := 32

def INT_VALUES : ℕ := 4294967296

def isURLAbsolute (url : Text) : Bool := (find? URL_END_SCHEME_PATTERN url).isSome

def getAbsoluteURLFromRelativePathToURL (baseURL relativePath : Text) : Option Text :=
  (find? URL_END_SCHEME_PATTERN baseURL).bind fun (scheme,path) =>
    match relativePath with
    | [] => some baseURL
    | c::_ =>
      if c = '/' then
        if '/' ∈ path then
          some (scheme++URL_END_SCHEME_PATTERN++path.takeWhile (· ≠ '/')++relativePath)
        else none
      else
        -- without the parameters, up to the last slash
        let stripped := path.takeWhile (· ≠ '?')
        if '/' ∈ stripped then
          some (scheme++URL_END_SCHEME_PATTERN++(stripped.reverse.dropWhile (· ≠ '/')).reverse++relativePath)
        else none

def getAbsoluteURL (baseURL url : Text) : Option Text :=
  if isURLAbsolute url then some url else getAbsoluteURLFromRelativePathToURL baseURL url

/-- What stands in front of the closing quotes. -/
def quoted (text : Text) : Option Text := if '"' ∈ text then some (text.takeWhile (· ≠ '"')) else none

section

variable (line baseURL : Text)

def parseURIAttribute : Text :=
  (((find? URI_ATTR line).bind fun found => quoted found.2).bind fun uri => getAbsoluteURL baseURL uri).getD []

def parsePlaylistMediaSequence (line : Text) : ℤ :=
  match extractInteger LONG_MAX (line.drop EXTXMEDIASEQUENCE.length) with
  | none => INVALID_MEDIA_SEQUENCE
  | some (playlistMediaSequence,_) =>
    if playlistMediaSequence<0 then INVALID_MEDIA_SEQUENCE else playlistMediaSequence

/-- Fill up to three digits with zeros. -/
def padFraction : ℕ → ℕ → ℕ
  | 0,fractionalSeconds => fractionalSeconds
  | missing+1,fractionalSeconds => padFraction missing (fractionalSeconds*10)

/-- At most so many digits: the fraction, the last `char` and the rest. -/
def readFraction : ℕ → ℕ → Char → Text → ℕ × Text
  | 0,fractionalSeconds,nextChar,iss => (fractionalSeconds,nextChar::iss)
  | left+1,fractionalSeconds,nextChar,iss =>
    match extractChar iss with
    | none => (padFraction (left+1) fractionalSeconds,[nextChar])
    | some (c,rest) =>
      if c.isDigit then readFraction left (fractionalSeconds*10+(c.toNat-48)) c rest
      else (padFraction (left+1) fractionalSeconds,c::rest)

/-- The last loop of `parseRuntime`, from the `char` read last on. -/
def endsInDigits : Text → Bool
  | [] => true
  | c::rest => if isspace c || c.isDigit then endsInDigits rest else c = ','

/-- The milliseconds to add for the text behind the seconds. -/
def parseFraction (iss : Text) : Option ℕ :=
  match extractChar iss with
  | none => some 0
  | some (nextChar,rest) =>
    let fraction := if nextChar = '.' then readFraction 3 0 nextChar rest else (0,nextChar::rest)
    if endsInDigits fraction.2 then some fraction.1 else none

/-- What `parseRuntime` makes of the text behind the colon. -/
def parseSeconds (iss : Text) : ℤ :=
  match extractInteger INT_MAX iss with
  | none => INVALID_DURATION
  | some (seconds,rest) =>
    if seconds<0 then INVALID_DURATION
    else
      match parseFraction rest with
      | none => INVALID_DURATION
      | some fractionalSeconds => seconds*1000+fractionalSeconds

/-- `none` is the exception of `at` for a line shorter than the tag. -/
def parseRuntime (line : Text) : Option ℤ :=
  if line.length<EXTINF.length then none
  else
    match ltrim (line.drop EXTINF.length) with
    | [] => some INVALID_DURATION
    | c::rest =>
      if c ≠ ':' then some INVALID_DURATION
      else
        match ltrim rest with
        | [] => some INVALID_DURATION
        | stringFromHereOnwards => some (parseSeconds stringFromHereOnwards)

def parseHLSEncryptionLine : EncryptionInfo :=
  match find? METHOD_ATTR line with
  | none => {}
  | some (_,value) =>
    if hasPrefix value ENCRYPTION_METHOD_NONE then {}
    else
      let method :=
        if hasPrefix value ENCRYPTION_METHOD_AES_128 then some Method.aes128
        else if hasPrefix value ENCRYPTION_METHOD_SAMPLE_AES then some Method.sampleAes
        else none
      match method with
      | none => {}
      | some method =>
        let keyURL := parseURIAttribute line baseURL
        if keyURL=[] then {}
        else
          let encryptionIV := ((find? IV_ATTR line).map fun found => found.2.takeWhile (· ≠ ',')).getD []
          ⟨method,String.ofList keyURL,String.ofList encryptionIV⟩

def parseByteRange (byteRange : Text) : ℤ × ℤ :=
  match find? ['@'] byteRange with
  | none => (0,0)
  | some (before,after) =>
    let range := readInteger LONG_MAX before
    let start := readInteger LONG_MAX after
    if start=0 ∧ range=0 then (0,0) else (start,start+range-1)

def parseHLSByteRangeLine (line : Text) : ℤ × ℤ :=
  -- without a colon, `npos + 1` is 0
  parseByteRange (((find? [':'] line).map Prod.snd).getD line)

def parseHLSMapLine : PlaylistEntry :=
  let url := parseURIAttribute line baseURL
  if url = [] then createErrorEntry (String.ofList url)
  else
    let byteRange := (((find? BYTERANGE_ATTR line).bind fun found => quoted found.2).map parseByteRange).getD (0, 0)
    { url := String.ofList url
      duration := INVALID_DURATION
      parseResult := .stillOngoing
      type := .mediaInitInfo
      byteRange := byteRange }

end

/-- `to16ByteHexString`, for the bits of an `int`. -/
def to16ByteHexString (number : ℕ) : Text :=
  let digits := Nat.toDigits 16 number
  '0' :: 'x' :: (List.replicate (IV_HEX_STRING_LENGTH-digits.length) '0' ++ digits)

/-- The variables of `parseM3UContent`. -/
structure Scan where
  isPlaylistExtendedM3U : Bool := false
  playlistMediaSequence : ℤ := INVALID_MEDIA_SEQUENCE
  isLive : Bool := true
  isMasterPlaylist : Bool := false
  duration : ℤ := INVALID_DURATION
  encryptionInfo : EncryptionInfo := {}
  mediaSequenceNumber : ℕ := 1
  byteRange : ℤ × ℤ := (0,0)
  variantURLs : List String := []
  entries : List PlaylistEntry := []

/-- The last entry, if any, gets `FINISHED`. -/
def finishLast (entries : List PlaylistEntry) : List PlaylistEntry :=
  match entries.getLast? with
  | none => entries
  | some last => entries.dropLast++[{last with parseResult := .finished}]

/-- A line that begins with `#`, except for the end of the list. -/
def Scan.tag (playlistURL line : Text) (s : Scan) : Scan :=
  if hasPrefix line EXT_M3U_PLAYLIST_HEADER then {s with isPlaylistExtendedM3U := true}
  else if hasPrefix line EXTXMEDIASEQUENCE then {s with playlistMediaSequence := parsePlaylistMediaSequence line}
  else if hasPrefix line EXTINF then {s with duration := (parseRuntime line).getD INVALID_DURATION}
  else if hasPrefix line EXTSTREAMINF then {s with isMasterPlaylist := true}
  else if hasPrefix line EXT_KEY then {s with encryptionInfo := parseHLSEncryptionLine line playlistURL}
  else if hasPrefix line EXT_BYTERANGE then {s with byteRange := parseHLSByteRangeLine line}
  else if hasPrefix line EXT_MAP then
    {s with entries := s.entries++[{parseHLSMapLine line playlistURL with encryptionInfo := s.encryptionInfo}]}
  else s

def Scan.url (playlistURL line : Text) (s : Scan) : Scan :=
  match getAbsoluteURL playlistURL line with
  | none => s
  | some absoluteURL =>
    if s.isMasterPlaylist then
      { s with variantURLs := s.variantURLs++[String.ofList absoluteURL], byteRange := (0, 0) }
    else
      let initVector :=
        if s.encryptionInfo.initVector = "" then String.ofList (to16ByteHexString s.mediaSequenceNumber)
        else s.encryptionInfo.initVector
      let entry : PlaylistEntry :=
        { url := String.ofList absoluteURL
          duration := s.duration
          parseResult := .stillOngoing
          byteRange := s.byteRange
          encryptionInfo := { s.encryptionInfo with initVector := initVector } }
      { s with
        entries := s.entries++[entry]
        mediaSequenceNumber := (s.mediaSequenceNumber + 1) % INT_VALUES
        byteRange := (0, 0) }

def removeCarriageReturnFromLine (line : Text) : Text :=
  if line.getLast?=some '\r' ∨ line.getLast?=some '\n' then line.dropLast else line

/-- The loop of `parseM3UContent`. -/
def scanLines (playlistURL : Text) (s : Scan) : List Text → Scan
  | [] => s
  | line::lines =>
    let line := removeCarriageReturnFromLine line
    match extractChar line with
    | none => scanLines playlistURL s lines
    | some (firstChar,_) =>
      if firstChar = '#' then
        if hasPrefix line ENDLIST then {s with isLive := false,entries := finishLast s.entries}
        else scanLines playlistURL (s.tag playlistURL line) lines
      else scanLines playlistURL (s.url playlistURL line) lines

def parseM3UContent (playlistURL content : Text) : M3UContent :=
  let s := scanLines playlistURL {} (getLines content)
  let entries := if s.isPlaylistExtendedM3U then s.entries else finishLast s.entries
  if s.isMasterPlaylist then ⟨s.variantURLs,[],false,INVALID_MEDIA_SEQUENCE⟩
  else ⟨[],entries,s.isLive,s.playlistMediaSequence⟩

end AlexaClientSDK.M3UParser
