import Mathlib.Data.List.Perm.Basic
import Mathlib.Data.List.Range
import Mathlib.Data.List.Nodup

/-!
# Ledgers of numbered requests

Requests are numbered as they are accepted. A ledger holds if each is either answered or pending, and only once: what is
accepted is pending first, and what is answered was pending.
-/

namespace AlexaClientSDK.Ledgers

open List

/-- Each of the accepted requests is answered or pending, once. -/
def Ledger (accepted : ℕ) (answered pending : List ℕ) : Prop := (answered++pending).Perm (List.range accepted)

variable {accepted : ℕ} {answered pending rest : List ℕ}

namespace Ledger

/-- Nothing was accepted. -/
theorem nil : Ledger 0 [] [] := List.Perm.refl _

section

variable (h : Ledger accepted answered pending)
include h

/-- One more request is accepted. -/
theorem accept (hrest : rest.Perm (accepted::pending)) : Ledger (accepted+1) answered rest := by
  unfold Ledger at h ⊢
  have hmove : (answered++accepted::pending).Perm (accepted::(answered++pending)) := perm_middle
  have hlast : (accepted::(answered++pending)).Perm ((answered++pending)++[accepted]) :=
    (perm_append_singleton accepted (answered++pending)).symm
  rw [range_succ]
  exact ((hrest.append_left answered).trans (hmove.trans hlast)).trans (h.append_right [accepted])

/-- Some of those that are pending are answered. -/
theorem answer {done : List ℕ} (hrest : pending.Perm (done++rest)) : Ledger accepted (answered++done) rest := by
  unfold Ledger at h ⊢
  rw [append_assoc]
  exact ((hrest.append_left answered).symm).trans h

/-- It does not matter in which order those that are pending stand. -/
theorem perm (hrest : rest.Perm pending) : Ledger accepted answered rest := by
  exact (hrest.append_left answered).trans h

/-- No request is answered twice. -/
theorem nodup : answered.Nodup :=
  (nodup_append.mp (List.Perm.nodup_iff h |>.mpr nodup_range)).1

variable {request : ℕ}

theorem not_mem (hmem : request∈pending) : request∉answered := fun hanswered =>
  (nodup_append.mp (List.Perm.nodup_iff h |>.mpr nodup_range)).2.2 request hanswered request hmem rfl

/-- No request is pending twice. -/
theorem nodup_pending : pending.Nodup :=
  (nodup_append.mp (List.Perm.nodup_iff h |>.mpr nodup_range)).2.1

theorem mem_iff : request∈answered ∨ request∈pending ↔ request<accepted := by
  rw [←mem_append,List.Perm.mem_iff h,mem_range]

theorem lt (hmem : request∈answered) : request<accepted :=
  h.mem_iff.mp (.inl hmem)

end

/-- Nothing is pending, so that every request is answered. -/
theorem mem (h : Ledger accepted answered []) {request : ℕ} (hlt : request<accepted) : request∈answered :=
  (h.mem_iff.mpr hlt).resolve_right not_mem_nil

end Ledger

end AlexaClientSDK.Ledgers
