import AlexaClientSDK.SlidingWindows
import AlexaClientSDK.IterativePlaylistParser

/-!
# Live playlists

A live stream is a list of segments with distinct URLs, and each request for its playlist comes back with a window of
it. Behind the last known URL a window holds exactly what it adds, so the parser returns the union.
-/

namespace AlexaClientSDK.LivePlaylists

open List Playlists SlidingWindows

structure Stream where
  url : ℕ → String
  entry : Window → ℕ → PlaylistEntry
  /-- `EXT-X-MEDIA-SEQUENCE` of a playlist. -/
  mediaSequence : Window → ℤ
  url_entry : ∀ w i,(entry w i).url=url i
  injective : ∀ i j,url i=url j → i=j
  nonempty : ∀ i,url i ≠ ""

variable (S : Stream) {w : Window} {windows : List Window} {last : ℕ}

namespace Stream

def entries (w : Window) : List PlaylistEntry := w.indices.map (S.entry w)

def content (w : Window) : M3UContent := ⟨[],S.entries w,true,S.mediaSequence w⟩

/-- What a request comes back with. -/
def response (w : Window) : Response := .m3u true (some (S.content w))

theorem map_url (indices : List ℕ) : (indices.map (S.entry w)).map PlaylistEntry.url=indices.map S.url := by
  rw [map_map]
  exact map_congr_left fun i _ => S.url_entry w i

theorem content_isEmpty : (S.content w).isEmpty=false := by
  have hlength : (S.entries w).length=w.last-w.first := by
    unfold Stream.entries Window.indices
    rw [length_map,length_range']
  have hpos := w.nonempty
  cases hentries : S.entries w with
  | nil =>
    rw [hentries,length_nil] at hlength
    omega
  | cons =>
    unfold M3UContent.isEmpty Stream.content
    rw [hentries]
    rfl

theorem backUrl_entries : backUrl (S.entries w)=S.url (w.last-1) := by
  have hpos := w.nonempty
  have hsplit : w.last-w.first=(w.last-w.first-1)+1 := by omega
  unfold backUrl Stream.entries Window.indices
  rw [hsplit,List.range'_concat,map_append,map_singleton,List.getLast?_concat,Option.map_some,
    Option.getD_some,S.url_entry]
  congr 1
  omega

theorem findIdx?_entries (i : ℕ) : (S.entries w).findIdx? (fun entry => decide (entry.url=S.url i)) =
      if w.first ≤ i ∧ i<w.last then some (i-w.first) else none := by
  unfold Stream.entries Window.indices
  rw [List.findIdx?_map]
  have hfun : ((fun entry => decide (entry.url=S.url i)) ∘ S.entry w)=fun j => decide (j=i) := by
    funext j
    refine decide_eq_decide.mpr ?_
    rw [S.url_entry]
    exact ⟨S.injective j i,fun heq => congrArg S.url heq⟩
  rw [hfun]
  split
  · rename_i hin
    rw [List.findIdx?_eq_some_iff_getElem]
    refine ⟨?_,?_,?_⟩
    · rw [length_range']
      omega
    · rw [getElem_range',decide_eq_true_eq]
      omega
    · intro j hj
      rw [getElem_range',decide_eq_true_eq]
      omega
  · rename_i hout
    rw [List.findIdx?_eq_none_iff]
    intro j hj
    rw [mem_range'_1] at hj
    rw [decide_eq_false_iff_not]
    omega

/-- Where the new entries of a playlist begin, when everything before `last` is known. -/
theorem startPoint_eq (hpos : 0<last) (hle : last≤w.last) :
    startPointForNewURLsAdded (S.entries w) (S.url (last-1))=last-w.first := by
  unfold startPointForNewURLsAdded
  rw [S.findIdx?_entries]
  by_cases hin : w.first≤last-1 ∧ last-1<w.last
  · rw [if_pos hin]
    dsimp only
    omega
  · rw [if_neg hin]
    dsimp only
    omega

theorem drop_entries : (S.entries w).drop (last-w.first)=(added last w).map (S.entry w) := by
  unfold Stream.entries Window.indices added
  rw [←map_drop,drop_range']
  congr 1
  have hfirst : w.first+(last-w.first)*1=max last w.first := by omega
  have hcount : w.last-w.first-(last-w.first)=w.last-max last w.first := by omega
  rw [hfirst,hcount]

/-- What a parser remembers of the segments before `last`. -/
def Remembers (lastUrl : String) (last : ℕ) : Prop :=
  (lastUrl = "" ∧ last=0) ∨ (0<last ∧ lastUrl=S.url (last-1))

theorem remembers_backUrl : S.Remembers (backUrl (S.entries w)) w.last :=
  .inr ⟨Nat.zero_lt_of_lt w.nonempty,S.backUrl_entries⟩

end Stream

open IterativePlaylistParser

/-- The parser with some entries in front of a live playlist. -/
def waiting (root : String) (entries : List PlaylistEntry) (lastUrl : String) : Parser :=
  ⟨entries.map .mediaInfo++[.playlistURL root],lastUrl,false⟩

variable {root lastUrl : String}

/-- A playlist that comes leaves what its window adds. -/
theorem Stream.visit_response (hlast : S.Remembers lastUrl last) (hle : last≤w.last) :
    (⟨[],lastUrl,false⟩ : Parser).visit root (S.response w) =
      (waiting root ((added last w).map (S.entry w)) (backUrl (S.entries w)),none) := by
  have hfound : (if lastUrl = "" then S.entries w
      else (S.entries w).drop (startPointForNewURLsAdded (S.entries w) lastUrl)) = (added last w).map (S.entry w) := by
    rcases hlast with ⟨hurl,hzero⟩|⟨hpos,hurl⟩
    · rw [if_pos hurl,←S.drop_entries,hzero,Nat.zero_sub]
      rfl
    · rw [if_neg (by rw [hurl]; exact S.nonempty _),hurl,S.startPoint_eq hpos hle,S.drop_entries]
  unfold Stream.response Parser.visit
  dsimp only
  rw [S.content_isEmpty,if_neg Bool.false_ne_true,if_pos rfl]
  unfold Stream.content Parser.mediaPlaylist waiting
  dsimp only
  rw [hfound,append_nil,if_pos rfl]

theorem Stream.calls_request (hlast : S.Remembers lastUrl last) (hle : last≤w.last)
    (responses : List Response) (n : ℕ) : (waiting root [] lastUrl).calls (S.response w::responses) n =
      (waiting root ((added last w).map (S.entry w)) (backUrl (S.entries w))).calls responses n := by
  have hnext : (waiting root [] lastUrl).next (S.response w::responses) =
      (waiting root ((added last w).map (S.entry w)) (backUrl (S.entries w))).next responses := by
    have hready : (waiting root [] lastUrl).ready=none := rfl
    have hqueue : (waiting root [] lastUrl).playQueue=[.playlistURL root] := rfl
    have hvisit : ({waiting root [] lastUrl with playQueue := []} : Parser).visit root (S.response w) =
        (waiting root ((added last w).map (S.entry w)) (backUrl (S.entries w)),none) :=
      S.visit_response hlast hle
    rw [Parser.next,hready,hqueue]
    dsimp only
    rw [hvisit]
  cases n with
  | zero => rfl
  | succ =>
    unfold Parser.calls
    rw [hnext]

theorem calls_entries (root lastUrl : String) (responses : List Response) (entries : List PlaylistEntry) (n : ℕ) :
    (waiting root entries lastUrl).calls responses n =
      entries.take n++(waiting root [] lastUrl).calls responses (n-entries.length) := by
  induction entries generalizing n with
  | nil => rw [take_nil,nil_append,length_nil,Nat.sub_zero]
  | cons entry entries ih =>
    cases n with
    | zero => rw [take_zero,nil_append,Nat.zero_sub]; rfl
    | succ n =>
      have hnext : (waiting root (entry::entries) lastUrl).next responses =
          some (entry,waiting root entries lastUrl,responses) := by
        cases responses with
        | nil => rfl
        | cons => rfl
      have hcalls : (waiting root (entry::entries) lastUrl).calls responses (n+1) =
          entry::(waiting root entries lastUrl).calls responses n := by
        rw [Parser.calls,hnext]
      rw [hcalls,ih,take_succ_cons,cons_append,length_cons,Nat.add_sub_add_right]

theorem Stream.calls_waiting (root : String) (hlast : S.Remembers lastUrl last)
    (hslides : windows.IsChain Slides) (hknown : ∀ w∈windows,last≤w.last) (n : ℕ) :
    ((waiting root [] lastUrl).calls (windows.map S.response) n).map PlaylistEntry.url =
      ((addedAll last windows).map S.url).take n := by
  induction windows generalizing last lastUrl n with
  | nil =>
    cases n with
    | zero => rfl
    | succ => rfl
  | cons w windows ih =>
    have hrest := ih S.remembers_backUrl hslides.tail (last_le_of_slides hslides)
      (n-((added last w).map (S.entry w)).length)
    rw [map_cons,S.calls_request hlast (hknown w mem_cons_self),calls_entries,map_append,hrest,
      map_take,S.map_url,addedAll,map_append,take_append,length_map,length_map]

/-- Repeated calls of `next` return the segments of the union of the windows, each one
once and in order: the first `n` calls return the first `n` of them. -/
theorem next_returns_union (root : String) (hroot : root ≠ "") (windows : List Window)
    (hslides : windows.IsChain Slides) (n : ℕ) : (initializeParsing root).map
        (fun parser => (parser.calls (windows.map S.response) n).map PlaylistEntry.url) =
      some (((union windows).map S.url).take n) := by
  have hstart : initializeParsing root=some (waiting root [] "") := if_neg hroot
  have hcalls := S.calls_waiting root (.inl ⟨rfl,rfl⟩) hslides (fun w _ => Nat.zero_le _) n
  rw [hstart,Option.map_some,hcalls,addedAll_eq_union hslides]

/-- A stream whose URLs are of different lengths. -/
def tally : Stream where
  url := fun i => String.ofList (List.replicate (i+1) 's')
  entry := fun _ i => ⟨String.ofList (List.replicate (i+1) 's'),INVALID_DURATION,.stillOngoing,.mediaInfo,(0,0),{}⟩
  mediaSequence := fun w => w.first
  url_entry := fun _ _ => rfl
  injective := by
    intro i j heq
    have hlength := congrArg List.length (String.ofList_injective heq)
    rw [length_replicate,length_replicate] at hlength
    exact Nat.succ.inj hlength
  nonempty := by
    intro i heq
    have hlist := congrArg String.toList heq
    rw [String.toList_ofList] at hlist
    cases hlist

/-- Two windows that overlap and one behind them. -/
theorem next_returns_union_three : (initializeParsing "live").map (fun parser =>
        (parser.calls ([⟨0,3,by decide⟩,⟨1,4,by decide⟩,⟨4,6,by decide⟩].map tally.response) 5).map
          PlaylistEntry.url) = some ([0,1,2,3,4].map tally.url) := by
  have hslides : [(⟨0,3,by decide⟩ : Window),⟨1,4,by decide⟩,⟨4,6,by decide⟩].IsChain Slides := by
    refine .cons_cons ⟨?_,?_⟩ (.cons_cons ⟨?_,?_⟩ (.singleton _))
    all_goals decide
  exact (next_returns_union tally "live" (by decide) _ hslides 5).trans (by decide)

end AlexaClientSDK.LivePlaylists
