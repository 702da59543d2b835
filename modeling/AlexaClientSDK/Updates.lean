import Mathlib.Logic.Function.Basic

/-!
# Functions changed at one point

What the new value has in common with the old one is kept of every value.
-/

namespace AlexaClientSDK.Updates

open Function

variable {ι α β : Type*} [DecidableEq ι] {g : ι → α} {i : ι} {v : α}

/-- A field that the new value has from the old one is unchanged everywhere. -/
theorem update_keeps (field : α → β) (h : field v=field (g i)) (j : ι) : field (update g i v j)=field (g j) := by
  by_cases heq : j=i
  · rw [heq,update_self]
    exact h
  · rw [update_of_ne heq]

/-- What relates the new value to the old holds of every value. -/
theorem update_rel {R : α → α → Prop} (hrefl : ∀ a,R a a) (h : R (g i) v) (j : ι) : R (g j) (update g i v j) := by
  by_cases heq : j=i
  · rw [heq,update_self]
    exact h
  · rw [update_of_ne heq]
    exact hrefl (g j)

end AlexaClientSDK.Updates
