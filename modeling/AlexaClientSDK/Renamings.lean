import Mathlib.Data.List.AList

/-!
# Renamed keys

The keys of a finite map may be renamed along an injective function. What the map does at a key, the renamed map does at
the new name of the key.
-/

namespace AlexaClientSDK.Renamings

open List

variable {α β γ δ : Type} {f : α → β}

/-- A map with its keys renamed. -/
def rename (hf : Function.Injective f) (map : AList fun _ : α => γ) : AList fun _ : β => γ :=
  ⟨map.entries.map (Sigma.map f fun _ => id),map.nodupKeys.map₁ f hf⟩

/-- What is read from the entries, renamed or not. -/
theorem map_filter_rename (hf : Function.Injective f) (map : AList fun _ : α => γ) (p : γ → Bool) (g : α → γ → δ)
    (g' : β → γ → δ) (hg : ∀ key value,g' (f key) value=g key value) :
    (((rename hf map).entries.filter fun entry => p entry.2).map fun entry => g' entry.1 entry.2) =
      (map.entries.filter fun entry => p entry.2).map fun entry => g entry.1 entry.2 := by
  unfold rename
  rw [filter_map,map_map]
  exact map_congr_left fun entry _ => hg entry.1 entry.2

variable [DecidableEq α] [DecidableEq β]

section

variable (hf : Function.Injective f)

section

variable (map : AList fun _ : α => γ)

/-- The value of a key is that of its new name. -/
theorem lookup_rename (key : α) : (rename hf map).lookup (f key)=map.lookup key :=
  dlookup_map₁ map.entries hf key

/-- A key is erased under its new name. -/
theorem rename_erase (key : α) : rename hf (map.erase key)=(rename hf map).erase (f key) := by
  have hentries : ∀ entries : List (Σ _ : α,γ),((entries.kerase key).map (Sigma.map f fun _ => id) :
      List (Σ _ : β,γ))=(entries.map (Sigma.map f fun _ => id)).kerase (f key) := by
    intro entries
    induction entries with
    | nil => rfl
    | cons entry entries ih =>
      obtain ⟨first,value⟩ := entry
      rw [map_cons]
      by_cases hkey : key=first
      · rw [kerase_cons_eq hkey,kerase_cons_eq (congrArg f hkey)]
      · have hname : f key≠f first := fun heq => hkey (hf heq)
        rw [kerase_cons_ne hkey,kerase_cons_ne hname,map_cons,ih]
  exact AList.ext (hentries map.entries)

/-- A value is inserted under the new name of its key. -/
theorem rename_insert (key : α) (value : γ) :
    rename hf (map.insert key value)=(rename hf map).insert (f key) value := by
  refine AList.ext ?_
  rw [AList.entries_insert]
  exact congrArg (List.cons _) (congrArg AList.entries (rename_erase hf map key))

end

end

end AlexaClientSDK.Renamings
