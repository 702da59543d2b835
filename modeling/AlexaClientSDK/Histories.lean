import Mathlib.Data.List.Basic

/-!
# Histories

A history is a list that only grows at its end. A law of the form "when this was
written down, that had been written down before" is kept when it holds for each
new mark against the history in front of it.
-/

namespace AlexaClientSDK.Histories

open List

variable {α : Type*} {P : List α → α → Prop} {history : List α}

/-- Every mark satisfies the law with what stands in front of it. -/
def AtEvery (P : List α → α → Prop) (history : List α) : Prop :=
  ∀ before mark after,history=before++mark::after → P before mark

/-- There is nothing to check in an empty history. -/
theorem atEvery_nil : AtEvery P [] := by
  intro before mark after heq
  cases before with
  | nil => cases heq
  | cons => cases heq

/-- It is the last one, or stood there before. -/
theorem snoc_eq_append {last mark : α} {before after : List α} (h : history++[last]=before++mark::after) :
    (after=[] ∧ before=history ∧ mark=last) ∨ ∃ rest,after=rest++[last] ∧ history=before++mark::rest := by
  rcases eq_nil_or_concat after with rfl|⟨rest,last',rfl⟩
  · obtain ⟨rfl,hlast⟩ := append_inj' h rfl
    exact .inl ⟨rfl,rfl,(singleton_inj.mp hlast).symm⟩
  · rw [concat_eq_append,←cons_append,←append_assoc] at h
    obtain ⟨hinit,hlast⟩ := append_inj' h rfl
    rw [concat_eq_append,singleton_inj.mp hlast]
    exact .inr ⟨rest,rfl,hinit⟩

/-- One more mark. -/
theorem atEvery_snoc {mark : α} (h : AtEvery P history) (hmark : P history mark) : AtEvery P (history++[mark]) := by
  intro before mark' after heq
  obtain ⟨-,rfl,rfl⟩|⟨rest,-,hinit⟩ := snoc_eq_append heq
  · exact hmark
  · exact h before mark' rest hinit

/-- Marks that the law says nothing about, one after the other. -/
theorem atEvery_append {more : List α} (h : AtEvery P history)
    (hmore : ∀ mark∈more,∀ before,P before mark) : AtEvery P (history++more) := by
  induction more generalizing history with
  | nil =>
    rw [append_nil]
    exact h
  | cons mark more ih =>
    rw [append_cons]
    refine ih (atEvery_snoc h (hmore mark mem_cons_self history)) ?_
    intro mark' hmark'
    exact hmore mark' (mem_cons_of_mem _ hmark')

/-- What the law says of a history it says of its beginning. -/
theorem AtEvery.init {more : List α} (h : AtEvery P (history++more)) : AtEvery P history := by
  intro before mark after heq
  refine h before mark (after++more) ?_
  rw [heq,append_assoc,cons_append]

variable {p : α → Bool} {l : List α} {a : α}

/-- The last one of two lists is in the second, or the second has none. -/
theorem findRev?_append (l' : List α) : (l++l').findRev? p=(l'.findRev? p).or (l.findRev? p) := by
  rw [List.findRev?_eq_find?_reverse,reverse_append,List.find?_append,←List.findRev?_eq_find?_reverse,
    ← List.findRev?_eq_find?_reverse]

/-- One more that is one. -/
theorem findRev?_snoc (h : p a=true) : (l++[a]).findRev? p=some a := by
  rw [findRev?_append,List.findRev?_eq_find?_reverse,reverse_singleton,List.find?_singleton,if_pos h,Option.some_or]

/-- One more that is none. -/
theorem findRev?_snoc_of_not (h : p a=false) : (l++[a]).findRev? p=l.findRev? p := by
  rw [findRev?_append,List.findRev?_eq_find?_reverse,reverse_singleton,List.find?_singleton,
    if_neg (ne_true_of_eq_false h),Option.none_or]

/-- There is no last one. -/
theorem findRev?_eq_none_iff : l.findRev? p=none ↔ ∀ b∈l,p b=false := by
  rw [List.findRev?_eq_find?_reverse,List.find?_eq_none]
  refine ⟨fun h b hb => ?_,fun h b hb => ?_⟩
  · exact Bool.eq_false_iff.mpr (h b (mem_reverse.mpr hb))
  · exact Bool.eq_false_iff.mp (h b (mem_reverse.mp hb))

/-- Behind the last one there is none. -/
theorem findRev?_eq_some_iff : l.findRev? p=some a ↔
    p a=true ∧ ∃ before after,l=before++a::after ∧ ∀ b∈after,p b=false := by
  rw [List.findRev?_eq_find?_reverse,List.find?_eq_some_iff_append]
  refine and_congr_right fun _ => ⟨?_,?_⟩
  · rintro ⟨after,before,heq,hnone⟩
    refine ⟨before.reverse,after.reverse,?_,fun b hb => ?_⟩
    · rw [←reverse_reverse l,heq,reverse_append,reverse_cons,append_assoc,singleton_append]
    · exact (Bool.not_eq_true' _).mp (hnone b (mem_reverse.mp hb))
  · rintro ⟨before,after,heq,hnone⟩
    refine ⟨after.reverse,before.reverse,?_,fun b hb => ?_⟩
    · rw [heq,reverse_append,reverse_cons,append_assoc,singleton_append]
    · exact (Bool.not_eq_true' _).mpr (hnone b (mem_reverse.mp hb))

end AlexaClientSDK.Histories
