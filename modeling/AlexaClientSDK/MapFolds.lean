import Mathlib.Data.List.AList

/-!
# Folds over finite maps

A loop over the entries of a map often touches, for each entry, only what some other
state keeps at the key of that entry. Such a loop is described key by key, whatever the
order in which it meets the entries.
-/

namespace AlexaClientSDK.MapFolds

open Option List

variable {α σ γ : Type*} {β : α → Type*}

/-- One pass touches what is seen at the key of its entry only. -/
structure Local (view : σ → α → γ) (pass : σ → Sigma β → σ) (own : (key : α) → β key → γ → γ) : Prop where
  /-- What is seen at the key of the entry. -/
  here : ∀ state entry,view (pass state entry) entry.1=own entry.1 entry.2 (view state entry.1)
  /-- What is seen elsewhere. -/
  elsewhere : ∀ state entry key,key≠entry.1 → view (pass state entry) key=view state key

variable [DecidableEq α] {view : σ → α → γ} {pass : σ → Sigma β → σ} {own : (key : α) → β key → γ → γ}

/-- A local loop over a list of entries without repeated keys. -/
theorem Local.view_foldl_list (h : Local view pass own) (key : α) :
    ∀ (entries : List (Sigma β)) (state : σ),entries.NodupKeys → view (entries.foldl pass state) key =
        (entries.dlookup key).elim (view state key) fun value => own key value (view state key) := by
  intro entries
  induction entries with
  | nil =>
    intro state _
    rfl
  | cons entry rest ih =>
    obtain ⟨first,value⟩ := entry
    intro state hnodup
    rw [nodupKeys_cons] at hnodup
    rw [foldl_cons,ih _ hnodup.2]
    rcases eq_or_ne key first with rfl|hne
    · rw [dlookup_cons_eq,dlookup_eq_none.mpr hnodup.1]
      exact h.here state ⟨key,value⟩
    · rw [dlookup_cons_ne _ ⟨first,value⟩ hne,h.elsewhere state ⟨first,value⟩ key hne]

/-- What a local loop over a map leaves at a key. -/
theorem Local.view_foldl (h : Local view pass own) (map : AList β) (state : σ) (key : α) :
    view (map.entries.foldl pass state) key =
      (map.lookup key).elim (view state key) fun value => own key value (view state key) :=
  h.view_foldl_list key map.entries state map.nodupKeys

/-- The one of a key and those that are left without it. -/
theorem entries_perm {map : AList β} {key : α} {value : β key} (h : map.lookup key=some value) :
    map.entries.Perm (⟨key,value⟩::(map.erase key).entries) := by
  have hmem : key∈map.entries.keys := dlookup_isSome.mp (isSome_iff_exists.mpr ⟨value,h⟩)
  obtain ⟨other,before,after,hnot,hentries,herased⟩ := exists_of_kerase hmem
  have hfound : map.entries.dlookup key=some other := by
    rw [hentries,dlookup_append,dlookup_eq_none.mpr hnot,none_or,dlookup_cons_eq]
  obtain rfl : value=other := some.inj (h.symm.trans hfound)
  change map.entries.Perm (⟨key,value⟩::map.entries.kerase key)
  rw [herased]
  exact hentries ▸ perm_middle

/-- Once if it is the one of its key, and not at all otherwise. -/
theorem count_entries {δ ε : Type*} [DecidableEq δ] [BEq δ] [LawfulBEq δ] (map : AList fun _ : α => ε)
    (label : ε → δ) (key : α) (sought : δ) :
    (map.entries.map fun entry => (entry.1,label entry.2)).count (key,sought) =
      if (map.lookup key).map label=some sought then 1 else 0 := by
  obtain ⟨entries,hnodup⟩ := map
  change (entries.map _).count _=if (entries.dlookup key).map label=some sought then 1 else 0
  induction entries with
  | nil => rfl
  | cons entry rest ih =>
    obtain ⟨first,value⟩ := entry
    rw [nodupKeys_cons] at hnodup
    rw [map_cons,count_cons,ih hnodup.2]
    rcases eq_or_ne key first with rfl|hne
    · rw [dlookup_cons_eq,dlookup_eq_none.mpr hnodup.1]
      simp only [map_none,map_some,some.injEq,beq_iff_eq,Prod.mk.injEq,true_and]
      simp
    · have hskip : List.dlookup key (⟨first,value⟩::rest)=rest.dlookup key :=
        dlookup_cons_ne (β := fun _ => ε) rest ⟨first,value⟩ hne
      rw [hskip]
      simp [hne.symm]

end AlexaClientSDK.MapFolds
