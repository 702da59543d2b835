import Mathlib.Order.Lattice
import Mathlib.Data.List.Basic

/-!
# Lists ordered by a key

A set whose comparator looks at a key only, kept as a list in the order of the
keys: insertion, removal, the first element and the elements behind one. The key
tells elements apart wherever the facts below need it.
-/

namespace AlexaClientSDK.KeyedLists

open List

variable {α κ : Type*} [LinearOrder κ] (key : α → κ)

/-- Insert an element unless one with its key is there. -/
def insertKey (a : α) : List α → List α
  | [] => [a]
  | b::l =>
    if key a<key b then a::b::l
    else if key b<key a then b::insertKey a l
    else b::l

/-- Remove the element with the key of `a`. -/
def eraseKey (a : α) (l : List α) : List α := l.filter fun b => key b≠key a

/-- The elements behind the one with the key of `a`. -/
def behind (a : α) : List α → List α
  | [] => []
  | b::l => if key b=key a then l else behind a l

/-- The keys increase along the list. -/
def KeySorted (l : List α) : Prop := l.Pairwise fun a b => key a<key b

variable {key}

section

variable (hkey : Function.Injective key)
include hkey

/-- Insertion adds one element. -/
theorem mem_insertKey {a b : α} {l : List α} : b∈insertKey key a l ↔ b=a ∨ b∈l := by
  induction l with
  | nil => simp [insertKey]
  | cons c l ih =>
    unfold insertKey
    by_cases hlt : key a<key c
    · rw [if_pos hlt,mem_cons]
    · rw [if_neg hlt]
      by_cases hgt : key c<key a
      · rw [if_pos hgt,mem_cons,ih,mem_cons,or_left_comm]
      · have heq : a=c := hkey (le_antisymm (not_lt.mp hgt) (not_lt.mp hlt))
        rw [if_neg hgt,heq]
        simp

/-- Insertion keeps the order. -/
theorem keySorted_insertKey {a : α} {l : List α} (h : KeySorted key l) : KeySorted key (insertKey key a l) := by
  induction l with
  | nil => exact pairwise_singleton _ _
  | cons c l ih =>
    obtain ⟨hc,hl⟩ := pairwise_cons.mp h
    unfold insertKey
    by_cases hlt : key a<key c
    · rw [if_pos hlt]
      refine pairwise_cons.mpr ⟨fun b hb => ?_,h⟩
      rcases mem_cons.mp hb with rfl|hb
      · exact hlt
      · exact hlt.trans (hc b hb)
    · rw [if_neg hlt]
      by_cases hgt : key c<key a
      · rw [if_pos hgt]
        refine pairwise_cons.mpr ⟨fun b hb => ?_,ih hl⟩
        rcases (mem_insertKey hkey).mp hb with rfl|hb
        · exact hgt
        · exact hc b hb
      · rw [if_neg hgt]
        exact h

/-- Removal takes one element away. -/
theorem mem_eraseKey {a b : α} {l : List α} : b∈eraseKey key a l ↔ b∈l ∧ b≠a := by
  unfold eraseKey
  rw [mem_filter,decide_eq_true_eq,hkey.ne_iff]

end

/-- Removal keeps the order. -/
theorem keySorted_eraseKey {a : α} {l : List α} (h : KeySorted key l) : KeySorted key (eraseKey key a l) :=
  h.filter _

/-- What stands behind an element of an ordered list has a greater key. -/
theorem mem_behind {a b : α} {l : List α} (h : KeySorted key l) (ha : a∈l) : b∈behind key a l ↔ b∈l ∧ key a<key b := by
  induction l with
  | nil => exact absurd ha not_mem_nil
  | cons c l ih =>
    obtain ⟨hc,hl⟩ := pairwise_cons.mp h
    unfold behind
    by_cases heq : key c=key a
    · rw [if_pos heq,mem_cons,←heq]
      constructor
      · intro hb
        exact ⟨.inr hb,hc b hb⟩
      · rintro ⟨rfl|hb,hlt⟩
        · exact absurd hlt (lt_irrefl _)
        · exact hb
    · have hal : a∈l := by
        rcases mem_cons.mp ha with rfl|hal
        · exact absurd rfl heq
        · exact hal
      rw [if_neg heq,ih hl hal,mem_cons]
      constructor
      · rintro ⟨hb,hlt⟩
        exact ⟨.inr hb,hlt⟩
      · rintro ⟨rfl|hb,hlt⟩
        · exact absurd (hc a hal) (not_lt_of_gt hlt)
        · exact ⟨hb,hlt⟩

/-- The first element of an ordered list has the least key. -/
theorem head_least {a b : α} {l : List α} (h : KeySorted key l) (ha : l.head?=some a)
    (hb : b∈l) : b=a ∨ key a<key b := by
  cases l with
  | nil => exact absurd hb not_mem_nil
  | cons =>
    obtain ⟨hc,_⟩ := pairwise_cons.mp h
    rw [List.head?_cons,Option.some.injEq] at ha
    subst ha
    rcases mem_cons.mp hb with rfl|hb
    · exact .inl rfl
    · exact .inr (hc b hb)

/-- The element with the least key comes first. -/
theorem head_eq_of_least {a : α} {l : List α} (h : KeySorted key l) (ha : a∈l)
    (hleast : ∀ b∈l,b=a ∨ key a<key b) : l.head?=some a := by
  cases l with
  | nil => exact absurd ha not_mem_nil
  | cons c =>
    rw [List.head?_cons,Option.some.injEq]
    rcases hleast c mem_cons_self with heq|hlt
    · exact heq
    · rcases mem_cons.mp ha with heq|hmem
      · exact heq.symm
      · exact absurd ((pairwise_cons.mp h).1 a hmem) (not_lt_of_gt hlt)

section

variable {α κ : Type*} [DecidableEq κ]

/-- Where the keys differ, an element and those with other keys are the list. -/
theorem cons_filter_perm (key : α → κ) {l : List α} (hdistinct : (l.map key).Nodup) {a : α} (ha : a∈l) :
    (a::l.filter fun b => decide (key b≠key a)).Perm l := by
  induction l with
  | nil => exact absurd ha not_mem_nil
  | cons c l ih =>
    obtain ⟨hc,hl⟩ := nodup_cons.mp hdistinct
    rcases mem_cons.mp ha with rfl|hal
    · have hothers : l.filter (fun b => decide (key b≠key a))=l := by
        rw [filter_eq_self]
        intro b hb
        refine decide_eq_true fun heq => hc ?_
        rw [←heq]
        exact mem_map_of_mem hb
      rw [filter_cons_of_neg (by simp),hothers]
    · have hne : key c≠key a := by
        intro heq
        rw [heq] at hc
        exact hc (mem_map_of_mem hal)
      rw [filter_cons_of_pos (by simpa using hne)]
      exact (List.Perm.swap c a _).trans ((ih hl hal).cons c)

end

end AlexaClientSDK.KeyedLists
