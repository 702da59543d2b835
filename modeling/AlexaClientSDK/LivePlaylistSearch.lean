import AlexaClientSDK.LivePlaylists
import AlexaClientSDK.PlaylistParser

/-!
# Live playlists in the recursive parser

The recursive parser leaves out a playlist whose media sequence is not higher than the last one's, and one that begins
where the last one ended when that was the first. Else it tells its observer of every segment of the union of the
windows, after every request.
-/

namespace AlexaClientSDK.LivePlaylistSearch

open Nat List Playlists SlidingWindows LivePlaylists PlaylistParser PlaylistEntry

/-- Consecutive windows slide, and overlap or are adjacent. -/
def Follows (w w' : Window) : Prop := Slides w w' ∧ w'.first≤w.last

/-- A window that brings new segments begins behind the one before. -/
def Forward (w w' : Window) : Prop := w.last<w'.last → w.first<w'.first

/-- It has the last segment of the first one; new segments come with new beginnings. -/
def KeepsUp : List Window → Prop
  | first::second::rest => second.first<first.last ∧ (second::rest).IsChain Forward
  | _ => True

variable (S : Stream) {w w' : Window} {windows : List Window} {root : String} {types : List PlaylistType}
  {last : ℕ} {sequence fragments : ℤ}

/-- What the search keeps between two requests for a live playlist. -/
def kept (root lastUrl : String) (sequence fragments : ℤ) : Search := ⟨[.playlistURL root],lastUrl,sequence,fragments⟩

/-- What the observer is told of from there on, by its URLs. -/
def told (types : List PlaylistType) (s : Search) (windows : List Window) : List String :=
  (s.run types (windows.map S.response)).map url

theorem told_cons (htypes : .extM3U∉types) {lastUrl : String} {entries : List PlaylistEntry}
    {lastUrl' : String} {sequence' fragments' : ℤ}
    (hmedia : (kept root lastUrl sequence fragments).mediaPlaylist (S.content w) =
      (entries,kept root lastUrl' sequence' fragments')) (windows : List Window) :
    told S types (kept root lastUrl sequence fragments) (w::windows) =
      entries.map url++told S types (kept root lastUrl' sequence' fragments') windows := by
  have hvisit : (⟨[],lastUrl,sequence,fragments⟩ : Search).visit types root (S.response w) =
      (entries,some (kept root lastUrl' sequence' fragments')) := by
    unfold Stream.response Search.visit
    dsimp only
    rw [if_pos rfl,if_neg htypes,S.content_isEmpty,if_neg Bool.false_ne_true,if_pos rfl]
    change (((kept root lastUrl sequence fragments).mediaPlaylist (S.content w)).1,
      some ((kept root lastUrl sequence fragments).mediaPlaylist (S.content w)).2)=_
    rw [hmedia]
  have hrun : (kept root lastUrl sequence fragments).run types ((w::windows).map S.response) =
      entries++(kept root lastUrl' sequence' fragments').run types (windows.map S.response) := by
    rw [map_cons,Search.run]
    dsimp only [kept,takeMedia]
    rw [hvisit,nil_append]
    rfl
  unfold told
  rw [hrun,map_append]

section

variable (hsequence : ∀ w,S.mediaSequence w=w.first)
include hsequence

theorem mediaPlaylist_first : (kept root "" INVALID_MEDIA_SEQUENCE 0).mediaPlaylist (S.content w) =
      (S.entries w,kept root (S.url (w.last-1)) INVALID_MEDIA_SEQUENCE 0) := by
  have hafter : ¬((S.content w).mediaSequence≤INVALID_MEDIA_SEQUENCE) := by
    change ¬(S.mediaSequence w ≤ -1)
    rw [hsequence]
    omega
  unfold Search.mediaPlaylist kept
  rw [if_neg fun h => hafter h.2,if_pos rfl,←S.backUrl_entries]
  rfl

theorem hasMediaSequence : (S.content w).hasMediaSequence=true := by
  refine decide_eq_true ?_
  change (-1 : ℤ)≠S.mediaSequence w
  rw [hsequence]
  omega

theorem mediaPlaylist_ignored (hpos : 0<last) (hle : last≤w.last) (hignored : (w.first : ℤ) ≤ sequence ∨
      sequence+1<w.first ∧ last≤w.first ∧ (w.first : ℤ)-sequence≠fragments) :
    (kept root (S.url (last-1)) sequence fragments).mediaPlaylist (S.content w) =
      ([],kept root (S.url (last-1)) sequence fragments) := by
  have hvalue : (S.content w).mediaSequence=w.first := hsequence w
  have hstart : startPointForNewURLsAdded (S.content w).entries (S.url (last-1))=last-w.first :=
    S.startPoint_eq hpos hle
  unfold Search.mediaPlaylist kept
  rw [hasMediaSequence S hsequence,hvalue,hstart]
  by_cases hbefore : (w.first : ℤ) ≤ sequence
  · rw [if_pos ⟨rfl,hbefore⟩]
  · obtain ⟨hgap,hbehind,hlength⟩ := hignored.resolve_left hbefore
    have hzero : last-w.first=0 := Nat.sub_eq_zero_of_le hbehind
    rw [if_neg fun h => hbefore h.2,if_neg (S.nonempty _),if_pos rfl,if_pos ⟨⟨hgap,hzero⟩,hlength⟩]

theorem mediaPlaylist_accepted (hpos : 0<last) (hle : last≤w.last) (hafter : sequence<w.first)
    (haccepted : w.first<last ∨ (w.first : ℤ) ≤ sequence+1 ∨ (w.first : ℤ)-sequence=fragments) :
    (kept root (S.url (last-1)) sequence fragments).mediaPlaylist (S.content w) =
      ((added last w).map (S.entry w),kept root (S.url (w.last-1)) w.first (w.last-w.first)) := by
  have hvalue : (S.content w).mediaSequence=w.first := hsequence w
  have hstart : startPointForNewURLsAdded (S.content w).entries (S.url (last-1))=last-w.first :=
    S.startPoint_eq hpos hle
  have hlength : ((S.content w).entries.length : ℤ)=w.last-w.first := by
    have hcount : (S.content w).entries.length=w.last-w.first := by
      change (w.indices.map (S.entry w)).length=_
      rw [length_map,Window.indices,length_range']
    have hwindow := w.nonempty
    omega
  unfold Search.mediaPlaylist kept
  dsimp only
  rw [hasMediaSequence S hsequence,hvalue,hstart,hlength,if_neg fun h => absurd h.2 (by omega),
    if_neg (S.nonempty _),if_pos rfl,if_neg (by omega),←S.backUrl_entries]
  exact Prod.ext S.drop_entries rfl

/-- What is kept after a window that was not the first one. -/
def after (S : Stream) (root : String) (w : Window) : Search :=
  kept root (S.url (w.last-1)) w.first (w.last-w.first)

/-- A window that begins where the last one did is left out. -/
theorem told_same (htypes : .extM3U∉types)
    (hfollows : Follows w w') (hsame : ¬w.first<w'.first) (windows : List Window) :
    told S types (after S root w) (w'::windows)=told S types (after S root w) windows := by
  have hpos := w.nonempty
  have hmedia : (after S root w).mediaPlaylist (S.content w')=([],after S root w) :=
    mediaPlaylist_ignored S hsequence (zero_lt_of_lt hpos) hfollows.1.2 (.inl (Int.ofNat_le.mpr (not_lt.mp hsame)))
  exact told_cons S htypes hmedia windows

theorem told_forward (htypes : .extM3U∉types)
    (hfollows : Follows w w') (hforward : w.first<w'.first) (windows : List Window) :
    told S types (after S root w) (w'::windows) =
      (added w.last w').map S.url++told S types (after S root w') windows := by
  have hpos := w.nonempty
  obtain ⟨⟨_,hlast⟩,hadjacent⟩ := hfollows
  have haccepted : w'.first<w.last ∨ (w'.first : ℤ)≤w.first+1 ∨
      (w'.first : ℤ)-w.first=w.last-w.first := by omega
  have hmedia : (after S root w).mediaPlaylist (S.content w') = ((added w.last w').map (S.entry w'),after S root w') :=
    mediaPlaylist_accepted S hsequence (zero_lt_of_lt hpos) hlast (Int.ofNat_lt.mpr hforward) haccepted
  refine (told_cons S htypes hmedia windows).trans ?_
  rw [S.map_url]
  rfl

end

/-- Where the first case holds, all cases hold just if all that follow do. -/
theorem forall_iff_of_succ {p q : ℕ → Prop} (hzero : p 0) (hsucc : ∀ n,p (n+1) ↔ q n) : (∀ n,p n) ↔ ∀ n,q n := by
  rw [←and_forall_add_one,and_iff_right hzero]
  exact forall_congr' hsucc

/-- Everything is told when new segments come with new beginnings and only then. -/
theorem told_after_iff (root : String) (hsequence : ∀ w,S.mediaSequence w=w.first) (htypes : .extM3U∉types)
    (hfollows : (w::windows).IsChain Follows) :
    (∀ n,told S types (after S root w) (windows.take n)=(addedAll w.last (windows.take n)).map S.url) ↔
      (w::windows).IsChain Forward := by
  induction windows generalizing w with
  | nil =>
    refine iff_of_true ?_ (.singleton _)
    intro n
    rw [take_nil]
    rfl
  | cons w' windows ih =>
    obtain ⟨hnext,hrest⟩ := isChain_cons_cons.mp hfollows
    rw [isChain_cons_cons,←ih hrest]
    by_cases hforward : w.first<w'.first
    · have hiff : ∀ n,told S types (after S root w) ((w'::windows).take (n+1)) =
          (addedAll w.last ((w'::windows).take (n+1))).map S.url ↔
            told S types (after S root w') (windows.take n)=(addedAll w'.last (windows.take n)).map S.url := by
        intro n
        rw [take_succ_cons,told_forward S hsequence htypes hnext hforward,addedAll,map_append]
        exact append_right_inj _
      have hsteps : Forward w w' := fun _ => hforward
      rw [and_iff_right hsteps]
      exact forall_iff_of_succ rfl hiff
    · have htold : ∀ n,told S types (after S root w) ((w'::windows).take (n+1)) =
          told S types (after S root w) (windows.take n) := by
        intro n
        rw [take_succ_cons,told_same S hsequence htypes hnext hforward]
      by_cases hnew : w.last<w'.last
      · -- the new segments of the window are not told
        refine iff_of_false ?_ (fun h => hforward (h.1 hnew))
        intro h
        have hone := h 1
        rw [htold 0,take_zero,take_succ_cons,take_zero,addedAll,addedAll,append_nil] at hone
        have hmem : w.last∈added w.last w' := mem_added.mpr ⟨Nat.le_refl _,hnext.2,hnew⟩
        have hnone : added w.last w'=[] := map_eq_nil_iff.mp hone.symm
        rw [hnone] at hmem
        cases hmem
      · have hfirst : w'.first=w.first := Nat.le_antisymm (Nat.not_lt.mp hforward) hnext.1.1
        have hlast : w'.last=w.last := Nat.le_antisymm (Nat.not_lt.mp hnew) hnext.1.2
        have hafter : after S root w'=after S root w := by
          unfold after
          rw [hfirst,hlast]
        have hadded : added w.last w'=[] := by
          unfold added
          rw [hlast,Nat.sub_eq_zero_of_le (Nat.le_max_left _ _)]
          rfl
        constructor
        · intro h
          refine ⟨fun hlt => absurd hlt hnew,fun n => ?_⟩
          have hsucc := h (n+1)
          rw [htold n,take_succ_cons,addedAll,hadded,nil_append] at hsucc
          rw [hafter]
          exact hsucc
        · rintro ⟨_,h⟩ n
          cases n with
          | zero => rfl
          | succ n =>
            rw [htold n,take_succ_cons,addedAll,hadded,nil_append,←hafter]
            exact h n

def afterFirst (S : Stream) (root : String) (w : Window) : Search :=
  kept root (S.url (w.last-1)) INVALID_MEDIA_SEQUENCE 0

section

variable (hsequence : ∀ w,S.mediaSequence w=w.first) (htypes : .extM3U∉types) (hfollows : Follows w w')
include hsequence htypes hfollows

theorem told_second (hoverlaps : w'.first<w.last) (windows : List Window) :
    told S types (afterFirst S root w) (w'::windows) =
      (added w.last w').map S.url++told S types (after S root w') windows := by
  have hpos := w.nonempty
  have hmedia : (afterFirst S root w).mediaPlaylist (S.content w') =
      ((added w.last w').map (S.entry w'),after S root w') := by
    refine mediaPlaylist_accepted S hsequence (zero_lt_of_lt hpos) hfollows.1.2 ?_ (.inl hoverlaps)
    change (-1 : ℤ)<w'.first
    omega
  refine (told_cons S htypes hmedia windows).trans ?_
  rw [S.map_url]
  rfl

/-- The second window is left out when it begins where the first one ended. -/
theorem told_second_adjacent (hadjacent : ¬w'.first<w.last) (windows : List Window) :
    told S types (afterFirst S root w) (w'::windows)=told S types (afterFirst S root w) windows := by
  have hpos := w.nonempty
  have hbehind := not_lt.mp hadjacent
  have hmedia : (afterFirst S root w).mediaPlaylist (S.content w')=([],afterFirst S root w) := by
    refine mediaPlaylist_ignored S hsequence (zero_lt_of_lt hpos) hfollows.1.2 (.inr ⟨?_,hbehind,?_⟩)
    · change (-1 : ℤ)+1<w'.first
      omega
    · change (w'.first : ℤ) - -1≠0
      omega
  exact told_cons S htypes hmedia windows

end

theorem told_afterFirst_iff (root : String) (hsequence : ∀ w,S.mediaSequence w=w.first) (htypes : .extM3U∉types)
    (hfollows : (w::windows).IsChain Follows) :
    (∀ n,told S types (afterFirst S root w) (windows.take n)=(addedAll w.last (windows.take n)).map S.url) ↔
      KeepsUp (w::windows) := by
  cases windows with
  | nil =>
    refine iff_of_true ?_ trivial
    intro n
    rw [take_nil]
    rfl
  | cons w' windows =>
    obtain ⟨hnext,hrest⟩ := isChain_cons_cons.mp hfollows
    rw [KeepsUp,←told_after_iff S root hsequence htypes hrest]
    by_cases hoverlaps : w'.first<w.last
    · have hiff : ∀ n,told S types (afterFirst S root w) ((w'::windows).take (n+1)) =
          (addedAll w.last ((w'::windows).take (n+1))).map S.url ↔
            told S types (after S root w') (windows.take n)=(addedAll w'.last (windows.take n)).map S.url := by
        intro n
        rw [take_succ_cons,told_second S hsequence htypes hnext hoverlaps,addedAll,map_append]
        exact append_right_inj _
      rw [and_iff_right hoverlaps]
      exact forall_iff_of_succ rfl hiff
    · refine iff_of_false ?_ (fun h => hoverlaps h.1)
      intro h
      have hone := h 1
      have hmem : w'.first∈added w.last w' :=
        mem_added.mpr ⟨not_lt.mp hoverlaps,le_refl _,w'.nonempty⟩
      rw [take_succ_cons,take_zero,told_second_adjacent S hsequence htypes hnext hoverlaps,addedAll,
        addedAll,append_nil] at hone
      have hnone : added w.last w'=[] := map_eq_nil_iff.mp hone.symm
      rw [hnone] at hmem
      cases hmem

/-- The search tells its observer of the segments of the union of the windows, each one
once and in order, after every request, if and only if the windows keep up. -/
theorem search_tells_union_iff (root : String) (types : List PlaylistType) (htypes : .extM3U∉types)
    (hsequence : ∀ w,S.mediaSequence w=w.first) (windows : List Window) (hfollows : windows.IsChain Follows) :
    (∀ n,(doDepthFirstSearch root types ((windows.take n).map S.response)).map url =
        (union (windows.take n)).map S.url) ↔ KeepsUp windows := by
  have hslides : ∀ n,(windows.take n).IsChain Slides := fun n => (hfollows.take n).imp fun _ _ => And.left
  have hunion : ∀ n,union (windows.take n)=addedAll 0 (windows.take n) := fun n =>
    (addedAll_eq_union (hslides n)).symm
  cases windows with
  | nil =>
    refine iff_of_true ?_ trivial
    intro n
    rw [take_nil]
    rfl
  | cons w windows =>
    rw [←told_afterFirst_iff S root hsequence htypes hfollows]
    have hiff : ∀ n,(doDepthFirstSearch root types (((w::windows).take (n+1)).map S.response)).map
        url=(union ((w::windows).take (n+1))).map S.url ↔
          told S types (afterFirst S root w) (windows.take n)=(addedAll w.last (windows.take n)).map S.url := by
      intro n
      have hfirst : told S types (kept root "" INVALID_MEDIA_SEQUENCE 0) (w::windows.take n) =
          (added 0 w).map S.url++told S types (afterFirst S root w) (windows.take n) := by
        rw [told_cons S htypes (mediaPlaylist_first S hsequence),←S.map_url,←S.drop_entries,Nat.zero_sub]
        rfl
      rw [hunion (n+1),take_succ_cons,addedAll,map_append]
      change told S types (kept root "" INVALID_MEDIA_SEQUENCE 0) (w::windows.take n)=_ ↔ _
      rw [hfirst]
      exact append_right_inj _
    exact forall_iff_of_succ rfl hiff

/-- The second window has the last segment of the first, the third begins where it ended. -/
theorem search_tells_union_three : (doDepthFirstSearch "live" []
        ([⟨0,3,by decide⟩,⟨1,4,by decide⟩,⟨4,6,by decide⟩].map tally.response)).map url =
      [0,1,2,3,4,5].map tally.url := by
  have hfollows : [(⟨0,3,by decide⟩ : Window),⟨1,4,by decide⟩,⟨4,6,by decide⟩].IsChain Follows := by
    refine .cons_cons ⟨⟨?_,?_⟩,?_⟩ (.cons_cons ⟨⟨?_,?_⟩,?_⟩ (.singleton _))
    all_goals decide
  have hkeeps : KeepsUp [⟨0,3,by decide⟩,⟨1,4,by decide⟩,⟨4,6,by decide⟩] := by
    refine ⟨by decide,.cons_cons ?_ (.singleton _)⟩
    intro _
    decide
  have htells := (search_tells_union_iff tally "live" [] (by decide) (fun _ => rfl) _ hfollows).mpr hkeeps 3
  exact htells.trans (by decide)

/-- A playlist that grows at its end is not told. -/
theorem growing_playlist_not_told : ¬∀ (windows : List Window),windows.IsChain Follows →
      (doDepthFirstSearch "live" [] (windows.map tally.response)).map url = (union windows).map tally.url := by
  intro hall
  have hfollows : [(⟨0,1,by decide⟩ : Window),⟨0,2,by decide⟩,⟨0,3,by decide⟩].IsChain Follows := by
    refine .cons_cons ⟨⟨?_,?_⟩,?_⟩ (.cons_cons ⟨⟨?_,?_⟩,?_⟩ (.singleton _))
    all_goals decide
  exact absurd (hall _ hfollows) (by decide)

end AlexaClientSDK.LivePlaylistSearch
