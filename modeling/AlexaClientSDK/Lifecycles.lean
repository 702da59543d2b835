import Mathlib.Data.List.Basic

/-!
# Lifecycles

A lifecycle says which mark may follow in which stage; a word of marks is legal when it is read to the end. When a rank
never falls along the way, a mark that lifts it over a threshold is read once only, and nothing that has to be read
below the threshold follows.
-/

namespace AlexaClientSDK.Lifecycles

open List

variable {σ ε : Type*} {next : σ → ε → Option σ}

/-- Read a word of marks. -/
def walk (next : σ → ε → Option σ) (s : σ) : List ε → Option σ
  | [] => some s
  | mark::word => (next s mark).bind fun t => walk next t word

/-- Two words in a row. -/
theorem walk_append (s : σ) (first second : List ε) :
    walk next s (first++second)=(walk next s first).bind fun t => walk next t second := by
  induction first generalizing s with
  | nil => rfl
  | cons mark first ih =>
    simp only [cons_append,walk]
    cases next s mark with
    | none => rfl
    | some t => exact ih t

variable {s t u : σ} {word : List ε} {mark : ε}

/-- One more mark. -/
theorem walk_snoc (h : walk next s word=some t) (hlast : next t mark=some u) : walk next s (word++[mark])=some u := by
  rw [walk_append,h,Option.bind_some,walk,hlast]
  rfl

variable {first second : List ε}

/-- A legal word is legal up to every cut. -/
theorem walk_append_inv (h : walk next s (first++second)=some u) :
    ∃ t,walk next s first=some t ∧ walk next t second=some u := by
  rw [walk_append] at h
  exact Option.bind_eq_some_iff.mp h

/-- The first mark of a legal word. -/
theorem walk_cons_inv (h : walk next s (mark::word)=some u) : ∃ t,next s mark=some t ∧ walk next t word=some u :=
  Option.bind_eq_some_iff.mp h

/-- What survives every mark of the word holds in the last stage. -/
theorem walk_invariant {P : σ → Prop} (h : walk next s word=some t)
    (hs : P s) (hstep : ∀ u mark v,mark∈word → P u → next u mark=some v → P v) : P t := by
  induction word generalizing s with
  | nil => exact Option.some.inj h ▸ hs
  | cons mark word ih =>
    obtain ⟨u,hnext,hrest⟩ := walk_cons_inv h
    exact ih hrest (hstep s mark u mem_cons_self hs hnext) fun u mark v hmark =>
      hstep u mark v (mem_cons_of_mem _ hmark)

section

variable {rank : σ → ℕ} (hmono : ∀ s mark t,next s mark=some t → rank s≤rank t)

include hmono

/-- The rank does not fall along a legal word. -/
theorem rank_le (h : walk next s word=some t) : rank s≤rank t :=
  walk_invariant h (P := fun u => rank s≤rank u) (Nat.le_refl _) fun u mark v _ hu hnext =>
    Nat.le_trans hu (hmono u mark v hnext)

/-- A mark that has to be read below a threshold is not read at or above it. -/
theorem not_mem_of_rank {B : ε → Prop} {threshold : ℕ} (hB : ∀ s mark t,B mark → next s mark=some t → rank s<threshold)
    (h : walk next s word=some t) (hs : threshold≤rank s) : ∀ mark∈word,¬B mark := by
  intro mark hmark hb
  obtain ⟨first,second,rfl⟩ := append_of_mem hmark
  obtain ⟨u,hfirst,hsecond⟩ := walk_append_inv h
  obtain ⟨v,hnext,_⟩ := walk_cons_inv hsecond
  have hle := rank_le hmono hfirst
  have hlt := hB u mark v hb hnext
  omega

/-- Behind a mark that lifts the rank comes none read below the threshold. -/
theorem not_mem_behind {A B : ε → Prop} (threshold : ℕ) (hA : ∀ s mark t,A mark → next s mark=some t → threshold≤rank t)
    (hB : ∀ s mark t,B mark → next s mark=some t → rank s<threshold) (hmark : A mark)
    (h : walk next s (first++mark::second)=some t) : ∀ later∈second,¬B later := by
  obtain ⟨u,_,hsecond⟩ := walk_append_inv h
  obtain ⟨v,hnext,hrest⟩ := walk_cons_inv hsecond
  exact not_mem_of_rank hmono hB hrest (hA u mark v hmark hnext)

/-- A mark that crosses the threshold is read at most once. -/
theorem countP_le_one {A : ε → Bool} (threshold : ℕ)
    (hup : ∀ s mark t,A mark=true → next s mark=some t → rank s<threshold ∧ threshold≤rank t)
    (h : walk next s word=some t) : word.countP A≤1 := by
  induction word generalizing s with
  | nil => exact Nat.zero_le _
  | cons mark word ih =>
    obtain ⟨u,hnext,hrest⟩ := walk_cons_inv h
    by_cases hmark : A mark=true
    · have hnone : word.countP A=0 := by
        rw [countP_eq_zero]
        exact not_mem_of_rank hmono (B := fun mark => A mark=true)
          (fun s mark t hA hnext => (hup s mark t hA hnext).1) hrest (hup s mark u hmark hnext).2
      have hone : (mark::word).countP A=1 := by rw [countP_cons_of_pos hmark,hnone]
      exact Nat.le_of_eq hone
    · rw [countP_cons_of_neg hmark]
      exact ih hrest

end

end AlexaClientSDK.Lifecycles
