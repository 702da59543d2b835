import AlexaClientSDK.Histories
import Mathlib.Data.Nat.Find

/-!
# Marks along a text

A list of marks, each with a place. At every position the mark in force is the last of the list whose place is at or
before it. Lists may be joined, and marks may be moved together with the positions.
-/

namespace AlexaClientSDK.Marks

open Option List

variable {μ : Type*} {place : μ → ℕ} {marks : List μ} {p : ℕ}

def inForce (place : μ → ℕ) (marks : List μ) (p : ℕ) : Option μ := marks.findRev? fun mark => place mark≤p

/-- The marks of a second list go before those of the first. -/
theorem inForce_append (more : List μ) :
    inForce place (marks++more) p=(inForce place more p).or (inForce place marks p) :=
  Histories.findRev?_append more

theorem inForce_eq_none_iff : inForce place marks p=none ↔ ∀ mark∈marks,p<place mark := by
  unfold inForce
  rw [Histories.findRev?_eq_none_iff]
  refine forall₂_congr fun mark _ => ?_
  rw [decide_eq_false_iff_not,Nat.not_le]

theorem inForce_isSome (h : ∃ mark∈marks,place mark≤p) : (inForce place marks p).isSome=true := by
  rw [isSome_iff_ne_none]
  intro hnone
  obtain ⟨mark,hmem,hle⟩ := h
  have hlt := inForce_eq_none_iff.mp hnone mark hmem
  omega

theorem inForce_snoc {mark : μ} (h : place mark≤p) : inForce place (marks++[mark]) p=some mark :=
  Histories.findRev?_snoc (decide_eq_true h)

/-- Behind the position at the end of the list it changes nothing. -/
theorem inForce_snoc_of_lt {mark : μ} (h : p<place mark) : inForce place (marks++[mark]) p=inForce place marks p :=
  Histories.findRev?_snoc_of_not (decide_eq_false (by omega))

theorem inForce_singleton (mark : μ) : inForce place [mark] p=if place mark≤p then some mark else none := by
  rw [←nil_append [mark]]
  split
  · next hle => exact inForce_snoc hle
  · next hle => exact inForce_snoc_of_lt (by omega)

theorem inForce_of_forall_le (h : ∀ mark∈marks,place mark≤p) : inForce place marks p=marks.getLast? := by
  rcases eq_nil_or_concat marks with rfl|⟨init,last,rfl⟩
  · rfl
  · rw [concat_eq_append] at h ⊢
    rw [inForce_snoc (h last (mem_append_right _ mem_cons_self)),List.getLast?_concat]

/-- Marks that are moved, or changed in what they say, along with the positions. -/
theorem inForce_map {ν : Type*} {place' : ν → ℕ} {f : μ → ν} {q : ℕ}
    (h : ∀ mark∈marks,place' (f mark)≤q ↔ place mark≤p) :
    inForce place' (marks.map f) q=(inForce place marks p).map f := by
  induction marks with
  | nil => rfl
  | cons mark marks ih =>
    have hrest := ih fun mark' hmem => h mark' (mem_cons_of_mem _ hmem)
    have hfirst := h mark mem_cons_self
    rw [map_cons,←singleton_append,inForce_append,hrest,←singleton_append (x := mark),
      inForce_append,map_or,inForce_singleton,inForce_singleton]
    by_cases hle : place mark≤p
    · rw [if_pos (hfirst.mpr hle),if_pos hle]
      rfl
    · rw [if_neg (fun h => hle (hfirst.mp h)),if_neg hle]
      rfl

/-- The last block with a mark at or before the position decides. -/
theorem inForce_flatten {blocks : List (List μ)} {j : ℕ} {block : List μ} (hj : blocks[j]?=some block)
    (hreach : ∃ mark∈block,place mark≤p)
    (hlast : ∀ k,j<k → ∀ later,blocks[k]?=some later → ∀ mark∈later,p<place mark) :
    inForce place blocks.flatten p=inForce place block p := by
  induction blocks generalizing j with
  | nil => exact absurd hj (by simp)
  | cons first blocks ih =>
    rw [flatten_cons,inForce_append]
    cases j with
    | zero =>
      obtain rfl : first=block := some.inj hj
      have hnone : inForce place blocks.flatten p=none := by
        refine inForce_eq_none_iff.mpr fun mark hmem => ?_
        obtain ⟨later,hlater,hmark⟩ := mem_flatten.mp hmem
        obtain ⟨k,hk⟩ := mem_iff_getElem?.mp hlater
        exact hlast (k+1) (Nat.succ_pos k) later hk mark hmark
      rw [hnone,none_or]
    | succ =>
      have hrest := ih hj fun k hk later hlater => hlast (k+1) (by omega) later hlater
      obtain ⟨mark,hmark⟩ := isSome_iff_exists.mp (inForce_isSome hreach)
      rw [hrest,hmark,some_or]

theorem exists_last {Q : ℕ → Prop} {i n : ℕ} (hi : Q i) (hbound : ∀ k,n<k → ¬Q k) : ∃ j,i≤j ∧ Q j ∧ ∀ k,j<k → ¬Q k := by
  classical
  have hin : i≤n := Nat.le_of_not_lt fun hlt => hbound i hlt hi
  refine ⟨Nat.findGreatest Q n,Nat.le_findGreatest hin hi,Nat.findGreatest_spec hin hi,fun k hk => ?_⟩
  rcases Nat.lt_or_ge n k with hlt|hle
  · exact hbound k hlt
  · exact Nat.findGreatest_is_greatest hk hle

/-- How many marks stand before a position. -/
def before (place : μ → ℕ) (marks : List μ) (p : ℕ) : ℕ := marks.countP fun mark => place mark<p

theorem sorted_cut (hsorted : marks.Pairwise fun mark mark' => place mark≤place mark') (p : ℕ) :
    (∀ mark∈marks.take (before place marks p),place mark<p) ∧
      ∀ mark∈marks.drop (before place marks p),p≤place mark := by
  induction marks with
  | nil => exact ⟨fun mark hmem => absurd hmem not_mem_nil,fun mark hmem => absurd hmem not_mem_nil⟩
  | cons mark marks ih =>
    obtain ⟨hfirst,hrest⟩ := pairwise_cons.mp hsorted
    unfold before at ih ⊢
    by_cases hlt : place mark<p
    · rw [countP_cons_of_pos (by simpa using hlt),take_succ_cons,drop_succ_cons]
      exact ⟨forall_mem_cons.mpr ⟨hlt,(ih hrest).1⟩,(ih hrest).2⟩
    · have hnone : marks.countP (fun mark => decide (place mark<p))=0 := by
        rw [countP_eq_zero]
        intro mark' hmem
        have hle := hfirst mark' hmem
        simp only [decide_eq_true_eq]
        omega
      rw [countP_cons_of_neg (by simpa using hlt),hnone]
      refine ⟨fun mark' hmem => absurd hmem (by simp),fun mark' hmem => ?_⟩
      rcases mem_cons.mp hmem with rfl|hmem
      · omega
      · have hle := hfirst mark' hmem
        omega

end AlexaClientSDK.Marks
