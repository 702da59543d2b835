import Mathlib.Data.List.Basic

/-!
# Machines that read and write

A transducer reads one symbol at a time and writes a list of symbols, or refuses. Its output does not depend on how the
input is cut, which makes it a good specification of a resumable scanner.
-/

namespace AlexaClientSDK.Transducers

variable {σ α ο : Type*}

/-- And all that was written, if no symbol was refused. -/
def run (step : σ → α → Option (σ × List ο)) : σ → List α → Option (σ × List ο)
  | s,[] => some (s,[])
  | s,a::input =>
    match step s a with
    | none => none
    | some (t,out) =>
      match run step t input with
      | none => none
      | some (u,out') => some (u,out++out')

variable {step : σ → α → Option (σ × List ο)}

/-- Reading nothing. -/
theorem run_nil (s : σ) : run step s []=some (s,[]) := rfl

variable {s t u : σ} {out out' : List ο}

/-- Reading a symbol and then the rest. -/
theorem run_cons {a : α} {input : List α} (hstep : step s a=some (t,out)) (hrun : run step t input=some (u,out')) :
    run step s (a::input)=some (u,out++out') := by
  simp only [run,hstep,hrun]

/-- A run over a nonempty input starts with a step. -/
theorem run_cons_inv {a : α} {input : List α} (hrun : run step s (a::input)=some (u,out)) :
    ∃ t out₁ out₂,step s a=some (t,out₁) ∧ run step t input=some (u,out₂) ∧ out=out₁++out₂ := by
  simp only [run] at hrun
  cases hstep : step s a with
  | none =>
    rw [hstep] at hrun
    exact absurd hrun nofun
  | some result =>
    obtain ⟨t,out₁⟩ := result
    rw [hstep] at hrun
    dsimp only at hrun
    cases hrest : run step t input with
    | none =>
      rw [hrest] at hrun
      exact absurd hrun nofun
    | some result =>
      obtain ⟨u',out₂⟩ := result
      rw [hrest] at hrun
      simp only [Option.some.injEq,Prod.mk.injEq] at hrun
      obtain ⟨rfl,rfl⟩ := hrun
      exact ⟨t,out₁,out₂,rfl,hrest,rfl⟩

variable {first second : List α}

/-- Runs compose, and so does what they write. -/
theorem run_append (hfirst : run step s first=some (t,out)) (hsecond : run step t second=some (u,out')) :
    run step s (first++second)=some (u,out++out') := by
  induction first generalizing s out with
  | nil =>
    simp only [run,Option.some.injEq,Prod.mk.injEq] at hfirst
    obtain ⟨rfl,rfl⟩ := hfirst
    exact hsecond
  | cons a first ih =>
    obtain ⟨m,out₁,out₂,hstep,hrest,rfl⟩ := run_cons_inv hfirst
    rw [List.append_assoc]
    exact run_cons hstep (ih hrest)

/-- A run can be cut anywhere. -/
theorem run_append_inv (hrun : run step s (first++second)=some (u,out)) :
    ∃ t out₁ out₂,run step s first=some (t,out₁) ∧ run step t second=some (u,out₂) ∧ out=out₁++out₂ := by
  induction first generalizing s out with
  | nil => exact ⟨s,[],out,rfl,hrun,rfl⟩
  | cons a first ih =>
    obtain ⟨m,out₁,out₂,hstep,hrest,rfl⟩ := run_cons_inv hrun
    obtain ⟨t,out₃,out₄,hfirst,hsecond,rfl⟩ := ih hrest
    exact ⟨t,out₁++out₃,out₄,run_cons hstep hfirst,hsecond,(List.append_assoc _ _ _).symm⟩

/-- Reading on from a known state. -/
theorem run_append_left (hfirst : run step s first=some (t,out)) (hrun : run step s (first++second)=some (u,out')) :
    ∃ out₂,run step t second=some (u,out₂) ∧ out'=out++out₂ := by
  obtain ⟨t',out₁,out₂,hfirst',hsecond,hout⟩ := run_append_inv hrun
  rw [hfirst] at hfirst'
  simp only [Option.some.injEq,Prod.mk.injEq] at hfirst'
  obtain ⟨rfl,rfl⟩ := hfirst'
  exact ⟨out₂,hsecond,hout⟩

end AlexaClientSDK.Transducers
