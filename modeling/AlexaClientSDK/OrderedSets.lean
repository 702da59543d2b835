import Mathlib.Data.List.Perm.Basic

/-!
# Ordered sets

A set that is kept in order by a comparison, as a list. Elements that the comparison does not tell apart are the same to the
set: the one that is there stays, and both are taken out with either.
-/

namespace AlexaClientSDK.OrderedSets

variable {α : Type*}

/-- The insertion of an element, unless one that compares equal is there. -/
def insertInto (less : α → α → Bool) (a : α) : List α → List α
  | [] => [a]
  | b::set =>
    if less a b then a::b::set
    else if less b a then b::insertInto less a set
    else b::set

/-- The removal of what compares equal to an element. -/
def eraseFrom (less : α → α → Bool) (a : α) (set : List α) : List α := set.filter fun b => less b a || less a b

/-- Of two at most one is less; a third is above it or below the other. -/
structure Comparison (less : α → α → Bool) : Prop where
  /-- Of two elements at most one is less. -/
  asymm : ∀ {a b},less a b=true → less b a=false
  /-- A third element is above the less or below the greater. -/
  between : ∀ {a b} c,less a b=true → less a c=true ∨ less c b=true

/-- The elements of a set are in order. -/
def Ordered (less : α → α → Bool) (set : List α) : Prop := set.Pairwise fun a b => less a b=true

variable {less : α → α → Bool} {set set' : List α} {a b c : α}

/-- No element is less than itself. -/
theorem Comparison.irrefl (h : Comparison less) (a : α) : less a a=false := by
  by_contra hless
  have htrue := (Bool.not_eq_false _).mp hless
  exact hless (h.asymm htrue)

/-- The order is transitive. -/
theorem Comparison.trans (h : Comparison less) (hab : less a b=true) (hbc : less b c=true) : less a c=true := by
  rcases h.between a hbc with hba|hac
  · rw [h.asymm hab] at hba
    exact Bool.noConfusion hba
  · exact hac

/-- An insertion brings in no other element. -/
theorem mem_insertInto (h : b∈insertInto less a set) : b=a ∨ b∈set := by
  induction set with
  | nil => exact .inl (List.mem_singleton.mp h)
  | cons c set ih =>
    rw [insertInto] at h
    split at h
    · exact List.mem_cons.mp h
    · split at h
      · rcases List.mem_cons.mp h with rfl|hmem
        · exact .inr List.mem_cons_self
        · exact (ih hmem).imp_right (List.mem_cons_of_mem c)
      · exact .inr h

/-- An insertion keeps the order. -/
theorem Ordered.insertInto (h : Comparison less) (hset : Ordered less set) (a : α) :
    Ordered less (OrderedSets.insertInto less a set) := by
  induction set with
  | nil => exact List.pairwise_singleton _ a
  | cons b set ih =>
    obtain ⟨hhead,htail⟩ := List.pairwise_cons.mp hset
    rw [OrderedSets.insertInto]
    split
    · next hab =>
      refine List.pairwise_cons.mpr ⟨List.forall_mem_cons.mpr ⟨hab,fun c hc => ?_⟩,hset⟩
      exact h.trans hab (hhead c hc)
    · split
      · next hba =>
        refine List.pairwise_cons.mpr ⟨fun c hc => ?_,ih htail⟩
        rcases mem_insertInto hc with rfl|hmem
        · exact hba
        · exact hhead c hmem
      · exact hset

/-- A removal keeps the order. -/
theorem Ordered.eraseFrom (hset : Ordered less set) (a : α) : Ordered less (OrderedSets.eraseFrom less a set) :=
  List.Pairwise.filter _ hset

/-- An element that none compares equal to is put in. -/
theorem insertInto_perm (hnew : ∀ b∈set,less a b=true ∨ less b a=true) : (insertInto less a set).Perm (a::set) := by
  induction set with
  | nil => exact List.Perm.refl _
  | cons b set ih =>
    obtain ⟨hb,hset⟩ := List.forall_mem_cons.mp hnew
    rw [insertInto]
    split
    · exact List.Perm.refl _
    · next hab =>
      rw [if_pos (hb.resolve_left hab)]
      exact ((ih hset).cons b).trans (List.Perm.swap a b set)

/-- An element that one compares equal to is not put in. -/
theorem insertInto_same (h : Comparison less) (hset : Ordered less set) (hmem : b∈set) (hab : less a b=false)
    (hba : less b a=false) : insertInto less a set=set := by
  induction set with
  | nil => exact absurd hmem List.not_mem_nil
  | cons c set ih =>
    obtain ⟨hhead,htail⟩ := List.pairwise_cons.mp hset
    rw [insertInto]
    rcases List.mem_cons.mp hmem with rfl|hmem
    · rw [hab,hba,if_neg Bool.false_ne_true,if_neg Bool.false_ne_true]
    · split
      · next hac =>
        rw [h.trans hac (hhead b hmem)] at hab
        exact Bool.noConfusion hab
      · rw [ih htail hmem]
        split
        · rfl
        · rfl

/-- Sets with the same elements are the same. -/
theorem Ordered.eq_of_perm (h : Comparison less) (hset : Ordered less set) (hset' : Ordered less set')
    (hperm : set.Perm set') : set=set' := by
  refine hperm.eq_of_pairwise (fun a b _ _ hab hba => ?_) hset hset'
  rw [h.asymm hab] at hba
  exact Bool.noConfusion hba

section

variable [DecidableEq α]

section

variable (h : Comparison less) (hset : Ordered less set)
include h hset

/-- The removal of an element takes out that one alone. -/
theorem eraseFrom_eq_erase (hmem : a∈set) : eraseFrom less a set=set.erase a := by
  induction set with
  | nil => exact absurd hmem List.not_mem_nil
  | cons b set ih =>
    obtain ⟨hhead,htail⟩ := List.pairwise_cons.mp hset
    unfold eraseFrom at ih ⊢
    by_cases hb : b=a
    · subst hb
      rw [List.erase_cons_head,List.filter_cons_of_neg (by rw [h.irrefl,Bool.false_or]; exact Bool.false_ne_true)]
      refine List.filter_eq_self.mpr fun c hc => ?_
      rw [hhead c hc,Bool.or_true]
    · have hin : a∈set := (List.mem_cons.mp hmem).resolve_left (Ne.symm hb)
      rw [List.erase_cons_tail (by rw [beq_iff_eq]; exact hb),
        List.filter_cons_of_pos (by rw [hhead a hin,Bool.true_or]),ih htail hin]

/-- An element that was taken out is put back in its place. -/
theorem insertInto_erase (hmem : a∈set) : insertInto less a (set.erase a)=set := by
  have hrest : Ordered less (set.erase a) := List.Pairwise.sublist List.erase_sublist hset
  refine Ordered.eq_of_perm h (hrest.insertInto h a) hset ?_
  refine (insertInto_perm fun b hb => ?_).trans (List.perm_cons_erase hmem).symm
  rw [←eraseFrom_eq_erase h hset hmem] at hb
  exact (Bool.or_eq_true_iff.mp (List.mem_filter.mp hb).2).symm

/-- It is there once more, and no other compares equal to it. -/
theorem of_insertInto_perm
    (hperm : (insertInto less b set).Perm (a::set)) : b=a ∧ ∀ c∈set,less b c=true ∨ less c b=true := by
  by_cases hnew : ∀ c∈set,less b c=true ∨ less c b=true
  · refine ⟨?_,hnew⟩
    have hcount := ((insertInto_perm hnew).symm.trans hperm).count_eq b
    by_contra hne
    rw [List.count_cons_self,List.count_cons_of_ne (Ne.symm hne)] at hcount
    omega
  · obtain ⟨c,hc,hequal⟩ : ∃ c∈set,¬(less b c=true ∨ less c b=true) := by
      by_contra hno
      exact hnew fun c hc => by_contra fun hequal => hno ⟨c,hc,hequal⟩
    obtain ⟨hbc,hcb⟩ := not_or.mp hequal
    rw [insertInto_same h hset hc (Bool.eq_false_iff.mpr hbc) (Bool.eq_false_iff.mpr hcb)] at hperm
    have hlength := hperm.length_eq
    rw [List.length_cons] at hlength
    omega

end

end

end AlexaClientSDK.OrderedSets
