import Mathlib.Data.List.Infix

/-!
# Substitutions in a text

Every occurrence of a pattern is replaced by a text of the same length, and every other letter stays. Where no occurrence
of the pattern overlaps another, the rewritten text is found letter by letter from the front.
-/

namespace AlexaClientSDK.Substitutions

open List

variable {α : Type*} {pattern replacement text out : List α}

/-- The pattern stands in the text at a position. -/
def Occurs (pattern text : List α) (i : ℕ) : Prop := pattern <+: text.drop i

/-- A position is one of those that an occurrence takes. -/
def Covered (pattern text : List α) (j : ℕ) : Prop :=
  ∃ i,Occurs pattern text i ∧ i≤j ∧ j < i+pattern.length

/-- Every occurrence replaced, and every other letter as it was. -/
structure Substituted (pattern replacement text out : List α) : Prop where
  /-- The length is kept. -/
  length : out.length=text.length
  /-- The replacement stands at every occurrence. -/
  replaced : ∀ i k,Occurs pattern text i → k<pattern.length → out[i+k]?=replacement[k]?
  /-- A letter outside the occurrences stays. -/
  kept : ∀ j,¬Covered pattern text j → out[j]?=text[j]?

/-- No proper end of the pattern is its beginning, so that two occurrences never overlap. -/
def Borderless (pattern : List α) : Prop :=
  ∀ k,0<k → k<pattern.length → ¬pattern.drop k <+: pattern

/-- What lies behind a first part of the text occurs where it did. -/
theorem occurs_append {front : List α} (i : ℕ) :
    Occurs pattern (front++text) (front.length+i) ↔ Occurs pattern text i := by
  unfold Occurs
  rw [drop_length_add_append]

/-- A borderless pattern does not begin again inside itself. -/
theorem not_occurs_within (hb : Borderless pattern) {k : ℕ} (hpos : 0<k) (hlt : k<pattern.length) :
    ¬Occurs pattern (pattern++text) k := by
  intro hocc
  unfold Occurs at hocc
  rw [drop_append_of_le_length (Nat.le_of_lt hlt)] at hocc
  have hlen : (pattern.drop k).length≤pattern.length := by
    rw [length_drop]
    omega
  exact hb k hpos hlt (prefix_of_prefix_length_le (prefix_append _ _) hocc hlen)

/-- By an occurrence behind it. -/
theorem covered_cons {c : α} (hno : ¬pattern <+: c::text) (j : ℕ) :
    Covered pattern (c::text) (j+1) ↔ Covered pattern text j := by
  constructor
  · rintro ⟨i,hocc,hle,hlt⟩
    cases i with
    | zero => exact absurd hocc hno
    | succ i => exact ⟨i,hocc,by omega,by omega⟩
  · rintro ⟨i,hocc,hle,hlt⟩
    exact ⟨i+1,hocc,by omega,by omega⟩

/-- The places behind an occurrence of a borderless pattern. -/
theorem covered_append (hb : Borderless pattern) (j : ℕ) :
    Covered pattern (pattern++text) (pattern.length+j) ↔ Covered pattern text j := by
  constructor
  · rintro ⟨i,hocc,hle,hlt⟩
    rcases Nat.lt_or_ge i pattern.length with hi|hi
    · rcases Nat.eq_zero_or_pos i with rfl|hpos
      · omega
      · exact absurd hocc (not_occurs_within hb hpos hi)
    · obtain ⟨k,rfl⟩ := Nat.exists_eq_add_of_le hi
      exact ⟨k,(occurs_append k).mp hocc,by omega,by omega⟩
  · rintro ⟨i,hocc,hle,hlt⟩
    exact ⟨pattern.length+i,(occurs_append i).mpr hocc,by omega,by omega⟩

/-- A text in which the pattern does not occur stays as it is. -/
theorem substituted_self (hno : ∀ i,¬Occurs pattern text i) : Substituted pattern replacement text text :=
  ⟨rfl,fun i _ hocc _ => absurd hocc (hno i),fun _ _ => rfl⟩

/-- An occurrence lies within the text. -/
theorem Occurs.le_length {i : ℕ} (h : Occurs pattern text i) : pattern.length≤text.length-i := by
  have hlen := List.IsPrefix.length_le h
  rwa [length_drop] at hlen

/-- A letter at which no occurrence begins is kept. -/
theorem substituted_cons {c : α} (hno : ¬pattern <+: c::text) : Substituted pattern replacement (c::text) out ↔
      ∃ rest,out=c::rest ∧ Substituted pattern replacement text rest := by
  constructor
  · intro h
    have hfirst : ¬Covered pattern (c::text) 0 := by
      rintro ⟨i,hocc,hle,-⟩
      obtain rfl : i=0 := by omega
      exact hno hocc
    cases out with
    | nil => exact absurd h.length (by simp)
    | cons d rest =>
      have hd : d=c := by simpa using h.kept 0 hfirst
      refine ⟨rest,by rw [hd],by simpa using h.length,fun i k hocc hk => ?_,fun j hj => ?_⟩
      · have hrep := h.replaced (i+1) k hocc hk
        rwa [Nat.add_right_comm,List.getElem?_cons_succ] at hrep
      · have hkept := h.kept (j+1) (fun hcov => hj ((covered_cons hno j).mp hcov))
        rwa [List.getElem?_cons_succ,List.getElem?_cons_succ] at hkept
  · rintro ⟨rest,rfl,h⟩
    refine ⟨by simpa using h.length,fun i k hocc hk => ?_,fun j hj => ?_⟩
    · cases i with
      | zero => exact absurd hocc hno
      | succ i =>
        rw [Nat.add_right_comm,List.getElem?_cons_succ]
        exact h.replaced i k hocc hk
    · cases j with
      | zero => rfl
      | succ j =>
        rw [List.getElem?_cons_succ,List.getElem?_cons_succ]
        exact h.kept j fun hcov => hj ((covered_cons hno j).mpr hcov)

/-- An occurrence in front is replaced, and the rest is rewritten by itself. -/
theorem substituted_append (hb : Borderless pattern) (hlen : replacement.length=pattern.length) :
    Substituted pattern replacement (pattern++text) out ↔
      ∃ rest,out=replacement++rest ∧ Substituted pattern replacement text rest := by
  constructor
  · intro h
    have hfront : ∀ k,k<pattern.length → out[k]?=replacement[k]? := fun k hk => by
      have hrep := h.replaced 0 k (prefix_append _ _) hk
      rwa [Nat.zero_add] at hrep
    have htotal : out.length=pattern.length+text.length := by rw [h.length,length_append]
    have htake : out.take pattern.length=replacement := by
      refine ext_getElem? fun k => ?_
      rw [List.getElem?_take]
      split
      · next hk => exact hfront k hk
      · next hk => exact (List.getElem?_eq_none (by omega)).symm
    have hrest : ∀ j,(out.drop pattern.length)[j]?=out[pattern.length+j]? := fun j => List.getElem?_drop
    refine ⟨out.drop pattern.length,?_,?_,fun i k hocc hk => ?_,fun j hj => ?_⟩
    · conv_lhs => rw [←take_append_drop pattern.length out,htake]
    · rw [length_drop,htotal]
      omega
    · rw [hrest,←Nat.add_assoc]
      exact h.replaced (pattern.length+i) k ((occurs_append i).mpr hocc) hk
    · rw [hrest,h.kept (pattern.length+j) fun hcov => hj ((covered_append hb j).mp hcov),
        List.getElem?_append_right (by omega),Nat.add_sub_cancel_left]
  · rintro ⟨rest,rfl,h⟩
    have hright : ∀ j,(replacement++rest)[pattern.length+j]?=rest[j]? := fun j => by
      rw [List.getElem?_append_right (by omega),hlen,Nat.add_sub_cancel_left]
    refine ⟨by rw [length_append,length_append,hlen,h.length],fun i k hocc hk => ?_,fun j hj => ?_⟩
    · rcases Nat.lt_or_ge i pattern.length with hi|hi
      · rcases Nat.eq_zero_or_pos i with rfl|hpos
        · rw [Nat.zero_add,List.getElem?_append_left (by omega)]
        · exact absurd hocc (not_occurs_within hb hpos hi)
      · obtain ⟨i,rfl⟩ := Nat.exists_eq_add_of_le hi
        rw [Nat.add_assoc,hright]
        exact h.replaced i k ((occurs_append i).mp hocc) hk
    · rcases Nat.lt_or_ge j pattern.length with hlt|hge
      · exact absurd ⟨0,prefix_append _ _,Nat.zero_le j,by omega⟩ hj
      · obtain ⟨j,rfl⟩ := Nat.exists_eq_add_of_le hge
        rw [hright,List.getElem?_append_right (by omega),Nat.add_sub_cancel_left]
        exact h.kept j fun hcov => hj ((covered_append hb j).mpr hcov)

/-- The leftmost ones that do not overlap are replaced, once. -/
inductive Replaced (pattern replacement : List α) : List α → List α → Prop
  | none {text : List α} (hno : ∀ i,¬Occurs pattern text i) : Replaced pattern replacement text text
  | first {front text out : List α} (hfirst : ∀ i,i<front.length → ¬Occurs pattern (front++(pattern++text)) i)
      (rest : Replaced pattern replacement text out) :
      Replaced pattern replacement (front++(pattern++text)) (front++(replacement++out))

end AlexaClientSDK.Substitutions
