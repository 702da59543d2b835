import AlexaClientSDK.M3UParser

/-!
# Implicit initialisation vectors

A segment of an encrypted playlist without an `IV` attribute is decrypted with its media sequence number. A live
playlist is fetched with other segments in front each time, and `EXT-X-MEDIA-SEQUENCE` says the number of the first one.
-/

namespace AlexaClientSDK.M3UParser

open Nat Bool Option Playlists StringUtils

section

def hexDigit (c : Char) : Option ℕ := (List.range 16).find? fun value => decide (digitChar value=c)

/-- The number that hexadecimal digits write, the greatest first. -/
def hexValue (digits : Text) : Option ℕ :=
  digits.foldl (fun value c => value.bind fun number => (hexDigit c).map (number*16 + ·)) (some 0)

/-- The encoding of a number in 16 bytes, the greatest first. -/
def IsImplicitIV (iv : String) (number : ℕ) : Prop :=
  ∃ digits,iv=String.ofList ('0' :: 'x' :: digits) ∧ digits.length=IV_HEX_STRING_LENGTH ∧ hexValue digits=some number

theorem hexDigit_digitChar : ∀ value<16,hexDigit (digitChar value)=some value := by decide

theorem hexValue_zeros (zeros : ℕ) (digits : Text) : hexValue (List.replicate zeros '0' ++ digits)=hexValue digits := by
  unfold hexValue
  rw [List.foldl_append]
  congr 1
  induction zeros with
  | zero => rfl
  | succ zeros ih =>
    rw [List.replicate_succ,List.foldl_cons]
    exact ih

theorem hexValue_toDigits (number : ℕ) : hexValue (Nat.toDigits 16 number)=some number := by
  induction number using Nat.strongRecOn with
  | ind number ih =>
    by_cases hsmall : number<16
    · rw [Nat.toDigits_of_lt_base hsmall]
      unfold hexValue
      rw [List.foldl_cons,List.foldl_nil,hexDigit_digitChar number hsmall]
      dsimp only [Option.bind,Option.map]
      rw [Nat.zero_mul,Nat.zero_add]
    · have hlow := hexDigit_digitChar (number%16) (Nat.mod_lt _ (by decide))
      have hhigh := ih (number / 16) (by omega)
      unfold hexValue at hhigh ⊢
      rw [Nat.toDigits_of_base_le (by decide) (Nat.not_lt.mp hsmall),List.foldl_append,hhigh,List.foldl_cons,
        List.foldl_nil,hlow]
      dsimp only [Option.bind,Option.map]
      rw [Nat.div_add_mod']

/-- What an `int` is written as encodes its bits, and no other number. -/
theorem isImplicitIV_iff {bits : ℕ} (hbits : bits<INT_VALUES) (number : ℕ) :
    IsImplicitIV (String.ofList (to16ByteHexString bits)) number ↔ number=bits := by
  have hlength : (toDigits 16 bits).length≤8 := (length_toDigits_le_iff (by decide) (by decide)).mpr hbits
  constructor
  · rintro ⟨digits,heq,-,hvalue⟩
    have hdigits := (List.cons.inj (List.cons.inj (String.ofList_inj.mp heq)).2).2
    rw [←hdigits,hexValue_zeros,hexValue_toDigits] at hvalue
    exact (some.inj hvalue).symm
  · rintro rfl
    refine ⟨_,rfl,?_,?_⟩
    · rw [List.length_append,List.length_replicate]
      unfold IV_HEX_STRING_LENGTH
      omega
    · rw [hexValue_zeros,hexValue_toDigits]

theorem hexDigit_eq_some {c : Char} {value : ℕ} (h : hexDigit c=some value) : value<16 ∧ digitChar value=c := by
  have hfound := List.find?_some h
  exact ⟨List.mem_range.mp (List.mem_of_find?_eq_some h),of_decide_eq_true hfound⟩

variable {number : ℕ}

/-- The last digit counts once, those in front of it sixteen times. -/
theorem hexValue_concat {digits : Text} {c : Char} (h : hexValue (digits++[c])=some number) :
    ∃ high low,hexValue digits=some high ∧ hexDigit c=some low ∧ number=high*16+low := by
  unfold hexValue at h
  rw [List.foldl_append] at h
  obtain ⟨high,hhigh,hrest⟩ := bind_eq_some_iff.mp h
  obtain ⟨low,hlow,hnumber⟩ := map_eq_some_iff.mp hrest
  exact ⟨high,low,hhigh,hlow,hnumber.symm⟩

theorem hexValue_unique {length : ℕ} {digits digits' : Text} (hlength : digits.length=length)
    (hlength' : digits'.length=length) (h : hexValue digits=some number) (h' : hexValue digits'=some number) :
    digits=digits' := by
  induction length generalizing digits digits' number with
  | zero => rw [List.length_eq_zero_iff.mp hlength,List.length_eq_zero_iff.mp hlength']
  | succ length ih =>
    obtain ⟨front,c,rfl⟩ := (List.eq_nil_or_concat digits).resolve_left (List.ne_nil_of_length_eq_add_one hlength)
    obtain ⟨front',c',rfl⟩ := (List.eq_nil_or_concat digits').resolve_left (List.ne_nil_of_length_eq_add_one hlength')
    rw [List.concat_eq_append] at h h' hlength hlength' ⊢
    rw [List.concat_eq_append]
    rw [List.length_append,List.length_singleton] at hlength hlength'
    obtain ⟨high,low,hhigh,hlow,rfl⟩ := hexValue_concat h
    obtain ⟨high',low',hhigh',hlow',hsame⟩ := hexValue_concat h'
    obtain ⟨hlt,hchar⟩ := hexDigit_eq_some hlow
    obtain ⟨hlt',hchar'⟩ := hexDigit_eq_some hlow'
    obtain rfl : high=high' := by omega
    obtain rfl : low=low' := by omega
    rw [ih (succ.inj hlength) (succ.inj hlength') hhigh hhigh',←hchar,←hchar']

theorem IsImplicitIV.unique {iv iv' : String} (h : IsImplicitIV iv number) (h' : IsImplicitIV iv' number) : iv=iv' := by
  obtain ⟨digits,rfl,hlength,hvalue⟩ := h
  obtain ⟨digits',rfl,hlength',hvalue'⟩ := h'
  rw [hexValue_unique hlength hlength' hvalue hvalue']

end

section

/-- No media initialisation section, and no invalid entry. -/
def isSegment (entry : PlaylistEntry) : Bool := decide (entry.type=.mediaInfo) && decide (entry.url ≠ "")

/-- The initialisation vectors of the segments, in order. -/
def initVectors (entries : List PlaylistEntry) : List String :=
  (entries.filter isSegment).map fun entry => entry.encryptionInfo.initVector

/-- The initialisation vector of the key line in front of each segment, if any. -/
def keyVectors (playlistURL : Text) (initVector : String) : List Text → List String
  | [] => []
  | line::lines =>
    let line := removeCarriageReturnFromLine line
    match extractChar line with
    | none => keyVectors playlistURL initVector lines
    | some (firstChar,_) =>
      if firstChar = '#' then
        if hasPrefix line ENDLIST then []
        else if hasPrefix line EXT_KEY then
          keyVectors playlistURL (parseHLSEncryptionLine line playlistURL).initVector lines
        else keyVectors playlistURL initVector lines
      else if (getAbsoluteURL playlistURL line).isSome then initVector::keyVectors playlistURL initVector lines
      else keyVectors playlistURL initVector lines

/-- That of its key line, or the position. -/
def segmentVector (position : ℕ) (initVector : String) : String :=
  if initVector = "" then String.ofList (to16ByteHexString (position%INT_VALUES)) else initVector

theorem initVectors_finishLast (entries : List PlaylistEntry) : initVectors (finishLast entries)=initVectors entries := by
  unfold finishLast
  cases hlast : entries.getLast? with
  | none => rfl
  | some =>
    obtain ⟨front,rfl⟩ := List.getLast?_eq_some_iff.mp hlast
    rw [List.dropLast_concat]
    unfold initVectors
    rw [List.filter_append,List.filter_append,List.map_append,List.map_append]
    congr 1
    unfold isSegment
    simp only [List.filter_cons,List.filter_nil]
    split
    · rfl
    · rfl

theorem find?_isSome (front pattern rest : Text) : (find? pattern (front++(pattern++rest))).isSome=true := by
  induction front with
  | nil =>
    rw [List.nil_append]
    cases pattern with
    | nil =>
      cases rest with
      | nil => rfl
      | cons => rfl
    | cons c pattern =>
      rw [List.cons_append,find?,if_pos]
      · rfl
      · exact List.isPrefixOf_iff_prefix.mpr (List.prefix_append (c::pattern) rest)
  | cons c front ih =>
    rw [List.cons_append,find?]
    split
    · rfl
    · rw [isSome_map]
      exact ih

theorem getAbsoluteURL_ne_nil {baseURL url absoluteURL : Text} (hurl : url≠[])
    (h : getAbsoluteURL baseURL url=some absoluteURL) : absoluteURL≠[] := by
  unfold getAbsoluteURL at h
  split at h
  · rw [←some.inj h]
    exact hurl
  · obtain ⟨⟨scheme,path⟩,-,hfound⟩ := bind_eq_some_iff.mp h
    obtain ⟨c,rest,rfl⟩ := List.exists_cons_of_ne_nil hurl
    dsimp only at hfound
    split at hfound
    · split at hfound
      · rw [←some.inj hfound]
        exact List.append_ne_nil_of_right_ne_nil _ hurl
      · exact absurd hfound.symm (some_ne_none _)
    · split at hfound
      · rw [←some.inj hfound]
        exact List.append_ne_nil_of_right_ne_nil _ hurl
      · exact absurd hfound.symm (some_ne_none _)

variable {line : Text}

theorem hasPrefix_nested {front front' : Text} (h : hasPrefix line front=true) (h' : hasPrefix line front'=true) :
    front <+: front' ∨ front' <+: front :=
  List.prefix_or_prefix_of_prefix (List.isPrefixOf_iff_prefix.mp h) (List.isPrefixOf_iff_prefix.mp h')

/-- The entry of a map line is invalid or a media initialisation section. -/
theorem isSegment_parseHLSMapLine (line playlistURL : Text) (encryptionInfo : EncryptionInfo) :
    isSegment {parseHLSMapLine line playlistURL with encryptionInfo := encryptionInfo}=false := by
  unfold parseHLSMapLine
  dsimp only
  split
  · next hempty =>
    rw [hempty]
    rfl
  · rfl

theorem Scan.tag_segments (playlistURL line : Text) (s : Scan) :
    initVectors (s.tag playlistURL line).entries=initVectors s.entries ∧
      (s.tag playlistURL line).mediaSequenceNumber=s.mediaSequenceNumber := by
  have hmap : initVectors (s.entries++[{parseHLSMapLine line playlistURL with encryptionInfo := s.encryptionInfo}]) =
      initVectors s.entries := by
    unfold initVectors
    rw [List.filter_append,List.filter_cons_of_neg (by rw [isSegment_parseHLSMapLine]; exact false_ne_true),
      List.filter_nil,List.append_nil]
  unfold Scan.tag
  repeat' split
  all_goals first | exact ⟨rfl,rfl⟩ | exact ⟨hmap,rfl⟩

variable {playlistURL : Text} {s : Scan}

theorem Scan.tag_master (h : s.isMasterPlaylist=true) : (s.tag playlistURL line).isMasterPlaylist=true := by
  unfold Scan.tag
  repeat' split
  all_goals first | exact h | rfl

theorem Scan.tag_encryptionInfo (playlistURL line : Text) (s : Scan) : (s.tag playlistURL line).encryptionInfo =
    if hasPrefix line EXT_KEY then parseHLSEncryptionLine line playlistURL else s.encryptionInfo := by
  cases hkey : hasPrefix line EXT_KEY with
  | false =>
    unfold Scan.tag
    rw [hkey]
    repeat' split
    all_goals first | rfl | exact absurd ‹false=true› false_ne_true
  | true =>
    have hnot : ∀ front∈[EXT_M3U_PLAYLIST_HEADER,EXTXMEDIASEQUENCE,EXTINF,EXTSTREAMINF],
        hasPrefix line front=false := by
      have hother : ∀ front∈[EXT_M3U_PLAYLIST_HEADER,EXTXMEDIASEQUENCE,EXTINF,EXTSTREAMINF],
          ¬(front <+: EXT_KEY ∨ EXT_KEY <+: front) := by decide
      exact fun front hfront => eq_false_iff.mpr fun h => hother front hfront (hasPrefix_nested h hkey)
    unfold Scan.tag
    rw [hnot _ (by simp),hnot _ (by simp),hnot _ (by simp),hnot _ (by simp),hkey]
    rfl

theorem Scan.url_master (h : s.isMasterPlaylist=true) : (s.url playlistURL line).isMasterPlaylist=true := by
  unfold Scan.url
  split
  · exact h
  · rw [if_pos h]
    exact h

variable {lines : List Text}

theorem scanLines_master (h : s.isMasterPlaylist=true) : (scanLines playlistURL s lines).isMasterPlaylist=true := by
  induction lines generalizing s with
  | nil => exact h
  | cons line lines ih =>
    rw [scanLines]
    split
    · exact ih h
    · split
      · split
        · exact h
        · exact ih (Scan.tag_master h)
      · exact ih (Scan.url_master h)

theorem Scan.url_segments {absoluteURL : Text} (hmaster : s.isMasterPlaylist=false)
    (hline : line≠[]) (hbits : s.mediaSequenceNumber<INT_VALUES)
    (hurl : getAbsoluteURL playlistURL line=some absoluteURL) : initVectors (s.url playlistURL line).entries =
        initVectors s.entries++[segmentVector s.mediaSequenceNumber s.encryptionInfo.initVector] ∧
      (s.url playlistURL line).mediaSequenceNumber=(s.mediaSequenceNumber+1)%INT_VALUES ∧
      (s.url playlistURL line).encryptionInfo=s.encryptionInfo := by
  have hne : String.ofList absoluteURL ≠ "" := fun h =>
    getAbsoluteURL_ne_nil hline hurl (String.ofList_inj.mp (h.trans String.ofList_nil.symm))
  unfold Scan.url
  rw [hurl,hmaster]
  dsimp only
  rw [if_neg Bool.false_ne_true]
  refine ⟨?_,rfl,rfl⟩
  unfold initVectors segmentVector
  rw [List.filter_append,List.map_append,mod_eq_of_lt hbits,List.filter_cons_of_pos]
  · rfl
  · unfold isSegment
    rw [decide_eq_true hne]
    rfl

theorem scanLines_not_master
    (h : (scanLines playlistURL s lines).isMasterPlaylist=false) : s.isMasterPlaylist=false := by
  by_contra hmaster
  rw [scanLines_master ((Bool.not_eq_false _).mp hmaster)] at h
  exact Bool.noConfusion h

theorem scanLines_segments
    (hmaster : (scanLines playlistURL s lines).isMasterPlaylist=false) (hbits : s.mediaSequenceNumber<INT_VALUES) :
    initVectors (scanLines playlistURL s lines).entries=initVectors s.entries ++
      (keyVectors playlistURL s.encryptionInfo.initVector lines).mapIdx fun index initVector =>
        segmentVector (s.mediaSequenceNumber+index) initVector := by
  induction lines generalizing s with
  | nil => exact (List.append_nil _).symm
  | cons line lines ih =>
    have hstill := scanLines_not_master hmaster
    rw [scanLines] at hmaster ⊢
    rw [keyVectors]
    cases hchar : extractChar (removeCarriageReturnFromLine line) with
    | none =>
      rw [hchar] at hmaster
      exact ih hmaster hbits
    | some found =>
      rw [hchar] at hmaster
      have hline : removeCarriageReturnFromLine line≠[] := fun hnil => by
        rw [hnil] at hchar
        exact some_ne_none _ hchar.symm
      dsimp only at hmaster ⊢
      by_cases hhash : found.1 = '#'
      · rw [if_pos hhash] at hmaster ⊢
        rw [if_pos hhash]
        by_cases hend : hasPrefix (removeCarriageReturnFromLine line) ENDLIST=true
        · rw [if_pos hend,if_pos hend,List.mapIdx_nil,List.append_nil]
          exact initVectors_finishLast s.entries
        · obtain ⟨hsegments,hnumber⟩ := s.tag_segments playlistURL (removeCarriageReturnFromLine line)
          have hinfo := s.tag_encryptionInfo playlistURL (removeCarriageReturnFromLine line)
          rw [if_neg hend] at hmaster
          rw [if_neg hend,if_neg hend,ih hmaster (by rw [hnumber]; exact hbits),hsegments,hnumber,hinfo]
          split
          · rfl
          · rfl
      · rw [if_neg hhash] at hmaster ⊢
        rw [if_neg hhash]
        cases hurl : getAbsoluteURL playlistURL (removeCarriageReturnFromLine line) with
        | none =>
          have hsame : s.url playlistURL (removeCarriageReturnFromLine line)=s := by
            unfold Scan.url
            rw [hurl]
          rw [hsame] at hmaster ⊢
          exact ih hmaster hbits
        | some =>
          obtain ⟨hsegments,hnumber,hinfo⟩ := Scan.url_segments hstill hline hbits hurl
          rw [ih hmaster (by rw [hnumber]; exact Nat.mod_lt _ (by decide)),hsegments,hnumber,hinfo,List.append_assoc]
          congr 1
          rw [isSome_some,if_pos rfl,List.mapIdx_cons,List.singleton_append,Nat.add_zero]
          congr 2
          funext index initVector
          unfold segmentVector
          rw [Nat.mod_add_mod,Nat.add_assoc,Nat.add_comm 1 index]

end

section

/-- An `IV` attribute, behind the colon, a comma or white space. -/
def HasIVAttribute (line : Text) : Prop :=
  ∃ front separator value,line=front++separator::(IV_ATTR++value) ∧
    (separator = ':' ∨ separator = ',' ∨ isspace separator=true) ∧ front.count '"' % 2=0

/-- Encrypted segments of a live playlist, without explicit vectors. -/
structure IsWindow (playlistURL content : Text) (mediaSequence : ℕ) : Prop where
  live : (parseM3UContent playlistURL content).isLive=true
  /-- `EXT-X-MEDIA-SEQUENCE` gives the number of its first segment. -/
  numbered : (parseM3UContent playlistURL content).mediaSequence=mediaSequence
  encrypted : ∀ entry∈(parseM3UContent playlistURL content).entries,isSegment entry=true →
    entry.encryptionInfo.method≠.none
  implicit : ∀ line∈getLines content,hasPrefix line EXT_KEY=true → ¬HasIVAttribute line

/-- The segment with a number, when the first one has the media sequence number. -/
def atNumber (mediaSequence : ℕ) (vectors : List String) (number : ℕ) : Option String :=
  if number < mediaSequence then none else vectors[number-mediaSequence]?

/-- Both windows give a segment that they share the encoding of its number. -/
def GivesImplicitIVs (playlistURL content content' : Text) (mediaSequence mediaSequence' : ℕ) : Prop :=
  ∀ number iv iv', atNumber mediaSequence (initVectors (parseM3UContent playlistURL content).entries) number=some iv →
    atNumber mediaSequence' (initVectors (parseM3UContent playlistURL content').entries) number=some iv' →
    iv=iv' ∧ IsImplicitIV iv number

/-- Numbered by the position in the window, or what the key line encodes. -/
def IsNumbered (mediaSequence number : ℕ) (iv : String) : Prop :=
  (iv = "" ∧ mediaSequence=1 ∧ number<INT_VALUES) ∨ IsImplicitIV iv number

variable {mediaSequence number : ℕ}

theorem initVectors_parseM3UContent {playlistURL content : Text}
    (h : (parseM3UContent playlistURL content).mediaSequence=mediaSequence) :
    initVectors (parseM3UContent playlistURL content).entries =
      (keyVectors playlistURL "" (getLines content)).mapIdx fun index initVector => segmentVector (1+index) initVector := by
  have hmaster : (scanLines playlistURL {} (getLines content)).isMasterPlaylist=false := by
    by_contra hmaster
    unfold parseM3UContent at h
    rw [if_pos ((Bool.not_eq_false _).mp hmaster)] at h
    dsimp only [INVALID_MEDIA_SEQUENCE] at h
    omega
  have hscan := scanLines_segments hmaster (by decide)
  unfold parseM3UContent
  dsimp only
  rw [hmaster,if_neg Bool.false_ne_true]
  split
  · exact hscan
  · rw [initVectors_finishLast]
    exact hscan

/-- What a window gives a segment comes from its key line, or its position. -/
theorem atNumber_mapIdx (mediaSequence : ℕ) (vectors : List String) (number : ℕ) :
    atNumber mediaSequence (vectors.mapIdx fun index initVector => segmentVector (1+index) initVector) number =
      (atNumber mediaSequence vectors number).map (segmentVector (1+(number-mediaSequence))) := by
  unfold atNumber
  split
  · rfl
  · rw [List.getElem?_mapIdx]

theorem segmentVector_iff (hle : mediaSequence≤number) (iv : String) :
    IsImplicitIV (segmentVector (1+(number-mediaSequence)) iv) number ↔ IsNumbered mediaSequence number iv := by
  unfold segmentVector IsNumbered
  by_cases hempty : iv = ""
  · have hno : ¬IsImplicitIV "" number := fun ⟨digits,heq,_⟩ =>
      List.cons_ne_nil _ _ (String.ofList_inj.mp (heq.symm.trans String.ofList_nil.symm))
    rw [if_pos hempty,hempty,isImplicitIV_iff (mod_lt _ (by decide)),or_iff_left hno,and_iff_right rfl]
    unfold INT_VALUES
    omega
  · rw [if_neg hempty,or_iff_right fun h => hempty h.1]

theorem not_hasIVAttribute {line : Text} (h : (find? IV_ATTR line).isSome=false) : ¬HasIVAttribute line := by
  rintro ⟨front,separator,value,rfl,-⟩
  have hfound := find?_isSome (front++[separator]) IV_ATTR value
  rw [List.append_assoc,List.singleton_append,h] at hfound
  exact false_ne_true hfound

theorem le_of_atNumber {start number : ℕ} {vectors : List String} {iv : String}
    (h : atNumber start vectors number=some iv) : start≤number := by
  unfold atNumber at h
  split at h
  · exact absurd h.symm (some_ne_none _)
  · next hnot => exact not_lt.mp hnot

/-- Two windows give the segments that they share the encodings of their numbers exactly when every one of these is numbered
in both. -/
theorem givesImplicitIVs_iff {playlistURL content content' : Text} {mediaSequence mediaSequence' : ℕ}
    (h : IsWindow playlistURL content mediaSequence) (h' : IsWindow playlistURL content' mediaSequence') :
    GivesImplicitIVs playlistURL content content' mediaSequence mediaSequence' ↔
      ∀ number iv iv',atNumber mediaSequence (keyVectors playlistURL "" (getLines content)) number=some iv →
        atNumber mediaSequence' (keyVectors playlistURL "" (getLines content')) number=some iv' →
        IsNumbered mediaSequence number iv ∧ IsNumbered mediaSequence' number iv' := by
  unfold GivesImplicitIVs
  rw [initVectors_parseM3UContent h.numbered,initVectors_parseM3UContent h'.numbered]
  simp only [atNumber_mapIdx,map_eq_some_iff]
  constructor
  · intro hgives number iv iv' hat hat'
    obtain ⟨hsame,hencodes⟩ := hgives number _ _ ⟨iv,hat,rfl⟩ ⟨iv',hat',rfl⟩
    exact ⟨(segmentVector_iff (le_of_atNumber hat) iv).mp hencodes,
      (segmentVector_iff (le_of_atNumber hat') iv').mp (by rw [←hsame]; exact hencodes)⟩
  · rintro hnumbered number - - ⟨iv,hat,rfl⟩ ⟨iv',hat',rfl⟩
    obtain ⟨hiv,hiv'⟩ := hnumbered number iv iv' hat hat'
    have hencodes := (segmentVector_iff (le_of_atNumber hat) iv).mpr hiv
    exact ⟨hencodes.unique ((segmentVector_iff (le_of_atNumber hat') iv').mpr hiv'),hencodes⟩

def window (mediaSequence segments : String) : Text :=
  "#EXTM3U\n#EXT-X-MEDIA-SEQUENCE:".toList++mediaSequence.toList ++
    "\n#EXT-X-KEY:METHOD=AES-128,URI=\"https://a/k\"\n".toList++segments.toList

/-- From number 1 on, and the next fetch of the same. -/
theorem givesImplicitIVs_from_one :
    GivesImplicitIVs "https://a/p".toList (window "1" "b\nc") (window "1" "b\nc\nd") 1 1 := by
  have hfirst : ∀ line∈getLines (window "1" "b\nc"),(find? IV_ATTR line).isSome=false := by decide
  have hsecond : ∀ line∈getLines (window "1" "b\nc\nd"),(find? IV_ATTR line).isSome=false := by decide
  have hkeys : keyVectors "https://a/p".toList "" (getLines (window "1" "b\nc"))=["",""] := by decide
  have hkeys' : keyVectors "https://a/p".toList "" (getLines (window "1" "b\nc\nd"))=["","",""] := by decide
  refine (givesImplicitIVs_iff
    ⟨by decide,by decide,by decide,fun line hline _ => not_hasIVAttribute (hfirst line hline)⟩
    ⟨by decide,by decide,by decide,fun line hline _ => not_hasIVAttribute (hsecond line hline)⟩).mpr ?_
  intro number iv iv' hat hat'
  rw [hkeys] at hat
  rw [hkeys'] at hat'
  have hnumbered : ∀ {count number : ℕ} {iv : String},count<4 → atNumber 1 (List.replicate count "") number=some iv →
      IsNumbered 1 number iv := fun hcount hat => by
    have hle := le_of_atNumber hat
    unfold atNumber at hat
    rw [if_neg (not_lt.mpr hle)] at hat
    obtain ⟨hindex,hvalue⟩ := List.getElem?_eq_some_iff.mp hat
    rw [List.getElem_replicate] at hvalue
    rw [List.length_replicate] at hindex
    refine .inl ⟨hvalue.symm,rfl,?_⟩
    unfold INT_VALUES
    omega
  exact ⟨@hnumbered 2 number iv (by decide) hat,@hnumbered 3 number iv' (by decide) hat'⟩

/-- The window without the first segment, and the segment with number 2. -/
theorem later_window_renumbers :
    IsWindow "https://a/p".toList (window "1" "b\nc") 1 ∧ IsWindow "https://a/p".toList (window "2" "c\nd") 2 ∧
      ¬GivesImplicitIVs "https://a/p".toList (window "1" "b\nc") (window "2" "c\nd") 1 2 := by
  have hfirst : ∀ line∈getLines (window "1" "b\nc"),(find? IV_ATTR line).isSome=false := by decide
  have hsecond : ∀ line∈getLines (window "2" "c\nd"),(find? IV_ATTR line).isSome=false := by decide
  refine ⟨⟨by decide,by decide,by decide,fun line hline _ => not_hasIVAttribute (hfirst line hline)⟩,
    ⟨by decide,by decide,by decide,fun line hline _ => not_hasIVAttribute (hsecond line hline)⟩,fun h => ?_⟩
  exact absurd (h 2 "0x00000000000000000000000000000002" "0x00000000000000000000000000000001" (by decide) (by decide)).1
    (by decide)

end

end AlexaClientSDK.M3UParser
