import Mathlib.Data.List.Sort
import Mathlib.Data.List.Chain

/-!
# Windows that slide over a list

A window is a non-empty range of indices, and windows slide when neither end moves back. What a window adds begins at
the end of the last one, and these additions are the union of the windows in order.
-/

namespace AlexaClientSDK.SlidingWindows

open List

/-- The indices from `first` up to and without `last`. -/
structure Window where
  first : ℕ
  last : ℕ
  nonempty : first<last

/-- The indices of a window, in order. -/
def Window.indices (w : Window) : List ℕ := List.range' w.first (w.last-w.first)

/-- The indices of some windows, in order and once. -/
def union (windows : List Window) : List ℕ :=
  (List.range ((windows.map Window.last).foldr max 0)).filter fun i => decide (∃ w∈windows,w.first ≤ i ∧ i<w.last)

/-- Neither end moves back. -/
def Slides (w w' : Window) : Prop := w.first≤w'.first ∧ w.last≤w'.last

/-- What a window adds when everything before `last` is known. -/
def added (last : ℕ) (w : Window) : List ℕ := List.range' (max last w.first) (w.last-max last w.first)

/-- What some windows add, one after the other. -/
def addedAll (last : ℕ) : List Window → List ℕ
  | [] => []
  | w::windows => added last w++addedAll w.last windows

variable {w : Window} {windows : List Window} {i last : ℕ}

theorem mem_union : i∈union windows ↔ ∃ w∈windows,w.first ≤ i ∧ i<w.last := by
  unfold union
  rw [mem_filter,decide_eq_true_eq,mem_range]
  refine ⟨And.right,fun h => ⟨?_,h⟩⟩
  obtain ⟨w,hw,_,hlast⟩ := h
  induction windows with
  | nil => cases hw
  | cons head windows ih =>
    rw [map_cons,foldr_cons]
    rcases mem_cons.mp hw with rfl|hw
    · omega
    · have hrest := ih hw
      omega

theorem mem_added : i∈added last w ↔ last ≤ i ∧ w.first ≤ i ∧ i<w.last := by
  unfold added
  rw [mem_range'_1]
  omega

/-- The ends of a sequence that slides. -/
theorem last_le_of_slides (hslides : (w::windows).IsChain Slides) : ∀ w'∈windows,w.last≤w'.last := by
  induction windows generalizing w with
  | nil => exact nofun
  | cons next windows ih =>
    obtain ⟨hnext,hrest⟩ := isChain_cons_cons.mp hslides
    intro w' hw'
    rcases mem_cons.mp hw' with rfl|hw'
    · exact hnext.2
    · exact hnext.2.trans (ih hrest w' hw')

/-- The beginnings of a sequence that slides. -/
theorem first_le_of_slides (hslides : (w::windows).IsChain Slides) : ∀ w'∈windows,w.first≤w'.first := by
  induction windows generalizing w with
  | nil => exact nofun
  | cons next windows ih =>
    obtain ⟨hnext,hrest⟩ := isChain_cons_cons.mp hslides
    intro w' hw'
    rcases mem_cons.mp hw' with rfl|hw'
    · exact hnext.1
    · exact hnext.1.trans (ih hrest w' hw')

section

variable (hslides : windows.IsChain Slides)
include hslides

/-- What is added is what was not known. -/
theorem mem_addedAll (hknown : ∀ w∈windows,last≤w.last) :
    i∈addedAll last windows ↔ last ≤ i ∧ ∃ w∈windows,w.first ≤ i ∧ i<w.last := by
  induction windows generalizing last with
  | nil =>
    refine iff_of_false not_mem_nil ?_
    rintro ⟨_,w,hw,_⟩
    cases hw
  | cons w windows ih =>
    have hlast := hknown w mem_cons_self
    unfold addedAll
    rw [mem_append,mem_added,ih hslides.tail (last_le_of_slides hslides)]
    constructor
    · rintro (⟨hi,hw⟩|⟨hi,w',hw',hmem⟩)
      · exact ⟨hi,w,mem_cons_self,hw⟩
      · exact ⟨hlast.trans hi,w',mem_cons_of_mem _ hw',hmem⟩
    · rintro ⟨hi,w',hw',hmem⟩
      rcases mem_cons.mp hw' with rfl|hw'
      · exact .inl ⟨hi,hmem⟩
      · -- a later window that has the index has it because the first one has it, or ends before
        have hfirst := first_le_of_slides hslides w' hw'
        by_cases hbefore : i<w.last
        · exact .inl ⟨hi,hfirst.trans hmem.1,hbefore⟩
        · exact .inr ⟨Nat.not_lt.mp hbefore,w',hw',hmem⟩

/-- What is added comes in order, and once. -/
theorem pairwise_addedAll (hknown : ∀ w∈windows,last≤w.last) : (addedAll last windows).Pairwise (· < ·) := by
  induction windows generalizing last with
  | nil => exact List.Pairwise.nil
  | cons w windows ih =>
    refine pairwise_append.mpr ⟨pairwise_lt_range',ih hslides.tail (last_le_of_slides hslides),?_⟩
    intro i hi j hj
    have hlow := (mem_added.mp hi).2.2
    have hhigh := ((mem_addedAll hslides.tail (last_le_of_slides hslides)).mp hj).1
    omega

/-- The additions of a sequence that slides are its union. -/
theorem addedAll_eq_union : addedAll 0 windows=union windows := by
  have hknown : ∀ w∈windows,0≤w.last := fun w _ => Nat.zero_le _
  refine List.Pairwise.eq_of_mem_iff (pairwise_addedAll hslides hknown) ?_ ?_
  · exact pairwise_lt_range.filter _
  · intro i
    rw [mem_addedAll hslides hknown,mem_union]
    exact and_iff_right (Nat.zero_le i)

end

end AlexaClientSDK.SlidingWindows
