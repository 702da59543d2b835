import Mathlib.Data.List.Basic

/-!
# Runs of a labelled step relation

A run is a finite chain of steps together with the list of its labels, newest last. Safety is proved once per step and
carried to every reached state by induction, with or without the labels so far.
-/

namespace AlexaClientSDK.LabelledRuns

open List

variable {σ ε : Type*}

/-- The chains of steps from one state to another, with their labels. -/
inductive Run (step : σ → ε → σ → Prop) (start : σ) : List ε → σ → Prop
  | refl : Run step start [] start
  | snoc {trace : List ε} {s t : σ} {label : ε} (run : Run step start trace s)
      (last : step s label t) : Run step start (trace++[label]) t

/-- A step relation cut down to the labels allowed in their source state. -/
def Guarded (step : σ → ε → σ → Prop) (allowed : σ → ε → Prop) : σ → ε → σ → Prop :=
  fun s label t => allowed s label ∧ step s label t

variable {step : σ → ε → σ → Prop} {start finish : σ} {trace : List ε}

/-- What survives every step, given the labels so far, holds at the end of every run. -/
theorem Run.induct (Inv : List ε → σ → Prop) (run : Run step start trace finish) (hstart : Inv [] start)
    (hstep : ∀ past s label t,Inv past s → step s label t → Inv (past++[label]) t) : Inv trace finish := by
  induction run with
  | refl => exact hstart
  | snoc _ last ih => exact hstep _ _ _ _ ih last

/-- The same rule for an invariant of the states alone. -/
theorem Run.invariant (Inv : σ → Prop) (run : Run step start trace finish) (hstart : Inv start)
    (hstep : ∀ s label t,Inv s → step s label t → Inv t) : Inv finish :=
  Run.induct (fun _ s => Inv s) run hstart fun _ s label t hs ht => hstep s label t hs ht

/-- A measure that every step lowers bounds the length of the runs. -/
theorem Run.length_le (Inv : σ → Prop) (measure : σ → ℕ) (run : Run step start trace finish) (hstart : Inv start)
    (hstep : ∀ s label t,Inv s → step s label t → Inv t)
    (hlower : ∀ s label t,Inv s → step s label t → measure t < measure s) :
    trace.length+measure finish ≤ measure start := by
  induction run with
  | refl => exact Nat.le_of_eq (Nat.zero_add _)
  | snoc run last =>
    have hless := hlower _ _ _ (run.invariant Inv hstart hstep) last
    rw [length_append,length_singleton]
    omega

/-- Where steps lower a measure until the work is done, a run does it. -/
theorem Run.settle (Inv done : σ → Prop) (measure : σ → ℕ)
    (hnext : ∀ s,Inv s → ¬done s → ∃ label t,step s label t ∧ Inv t ∧ measure t < measure s)
    (hstart : Inv start) : ∃ (trace : List ε) (finish : σ),Run step start trace finish ∧ Inv finish ∧ done finish := by
  suffices h : ∀ n past s,measure s≤n → Inv s → Run step start past s →
      ∃ trace finish,Run step start trace finish ∧ Inv finish ∧ done finish from
    h _ _ _ (Nat.le_refl _) hstart Run.refl
  intro n
  induction n with
  | zero =>
    intro past s hmeasure hinv run
    by_cases hdone : done s
    · exact ⟨past,s,run,hinv,hdone⟩
    · obtain ⟨_,t,_,_,hlower⟩ := hnext s hinv hdone
      omega
  | succ n ih =>
    intro past s hmeasure hinv run
    by_cases hdone : done s
    · exact ⟨past,s,run,hinv,hdone⟩
    · obtain ⟨label,t,hstep,hinvNext,hlower⟩ := hnext s hinv hdone
      exact ih _ t (by omega) hinvNext (run.snoc hstep)

variable {s t : σ}

/-- Runs compose, and so do their labels. -/
theorem Run.append {u : σ} {first second : List ε}
    (h : Run step s first t) (h' : Run step t second u) : Run step s (first++second) u := by
  induction h' with
  | refl => simpa using h
  | snoc _ last ih =>
    rw [←append_assoc]
    exact ih.snoc last

variable {allowed : σ → ε → Prop}

/-- One more step that is allowed. -/
theorem Run.allow {label : ε} (run : Run (Guarded step allowed) start trace s) (last : step s label t)
    (hallowed : allowed s label) : Run (Guarded step allowed) start (trace++[label]) t :=
  run.snoc ⟨hallowed,last⟩

/-- A run whose labels are allowed in every state is a guarded run. -/
theorem Run.guard (run : Run step start trace s) (hallowed : ∀ label∈trace,∀ state,allowed state label) :
    Run (Guarded step allowed) start trace s := by
  induction run with
  | refl => exact Run.refl
  | snoc _ last ih =>
    have hpast := ih fun label hmem => hallowed label (mem_append_left _ hmem)
    exact hpast.allow last (hallowed _ (mem_append_right _ mem_cons_self) _)

theorem Run.forget (run : Run (Guarded step allowed) start trace s) : Run step start trace s := by
  induction run with
  | refl => exact Run.refl
  | snoc _ last ih => exact ih.snoc last.2

/-- A step relation cut down to the steps that reach a good state. -/
def Keeping (step : σ → ε → σ → Prop) (good : σ → Prop) : σ → ε → σ → Prop :=
  fun s label t => step s label t ∧ good t

/-- Relations with the same steps from reached states have the same runs. -/
theorem Run.congr {other : σ → ε → σ → Prop} (Inv : σ → Prop)
    (hstart : Inv start) (hstep : ∀ s label t,Inv s → other s label t → Inv t)
    (hiff : ∀ s label t,Inv s → (step s label t ↔ other s label t)) :
    Run step start trace finish ↔ Run other start trace finish := by
  constructor
  · intro run
    suffices h : Run other start trace finish ∧ Inv finish from h.1
    induction run with
    | refl => exact ⟨Run.refl,hstart⟩
    | snoc _ last ih =>
      have hother := (hiff _ _ _ ih.2).mp last
      exact ⟨ih.1.snoc hother,hstep _ _ _ ih.2 hother⟩
  · intro run
    suffices h : Run step start trace finish ∧ Inv finish from h.1
    induction run with
    | refl => exact ⟨Run.refl,hstart⟩
    | snoc _ last ih => exact ⟨ih.1.snoc ((hiff _ _ _ ih.2).mpr last),hstep _ _ _ ih.2 last⟩

/-- Where allowed labels lead to good states, the runs through these are those with allowed labels. -/
theorem Run.keeping_iff {good : σ → Prop} (Inv : σ → Prop) (hstart : Inv start)
    (hstep : ∀ s label t,Inv s → step s label t → allowed s label → Inv t)
    (hgood : ∀ s label t,Inv s → step s label t → (good t ↔ allowed s label)) :
    Run (Keeping step good) start trace finish ↔ Run (Guarded step allowed) start trace finish := by
  refine Run.congr Inv hstart (fun s label t h hlast => hstep s label t h hlast.2 hlast.1) fun s label t h => ?_
  constructor
  · exact fun hlast => ⟨(hgood s label t h hlast.1).mp hlast.2,hlast.1⟩
  · exact fun hlast => ⟨hlast.2,(hgood s label t h hlast.2).mpr hlast.1⟩

/-- The labels can be followed one after the other. -/
def canFollow (possible : σ → ε → Bool) (next : σ → ε → σ) : σ → List ε → Bool
  | _,[] => true
  | s,label::labels => possible s label && canFollow possible next (next s label) labels

/-- Labels that can be followed make a run. -/
theorem Run.follow {possible : σ → ε → Bool} {next : σ → ε → σ}
    (hstep : ∀ s label,possible s label=true → step s label (next s label)) :
    ∀ {labels past : List ε} {s : σ},Run step start past s → canFollow possible next s labels=true →
      Run step start (past++labels) (labels.foldl next s) := by
  intro labels
  induction labels with
  | nil =>
    intro past s run _
    rw [append_nil]
    exact run
  | cons label labels ih =>
    intro past s run hfollow
    obtain ⟨hpossible,hrest⟩ := Bool.and_eq_true_iff.mp hfollow
    have hmore := ih (run.snoc (hstep s label hpossible)) hrest
    rw [append_assoc] at hmore
    exact hmore

theorem Run.single {label : ε} (h : step s label t) : Run step s [label] t := by
  have hrun : Run step s [] s := Run.refl
  exact hrun.snoc h

end AlexaClientSDK.LabelledRuns
