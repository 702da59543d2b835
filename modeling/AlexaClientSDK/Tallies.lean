import AlexaClientSDK.MapFolds

/-!
# Tallies

A tally is a finite map from keys to counts, without entries for the count zero. A key is counted up
and down, and its entry goes when the count is down to zero.
-/

namespace AlexaClientSDK.Tallies

open AList Option

variable {α β : Type} [DecidableEq α]

section

variable (tally : AList fun _ : α => ℕ)

def countOf (key : α) : ℕ := (tally.lookup key).getD 0

/-- A key is counted up. -/
def increment (key : α) : AList fun _ : α => ℕ :=
  match tally.lookup key with
  | some count => tally.insert key (count+1)
  | none => tally.insert key 1

/-- A key is counted down. -/
def decrement (key : α) : AList fun _ : α => ℕ :=
  match tally.lookup key with
  | some count => if count-1=0 then tally.erase key else tally.insert key (count-1)
  | none => tally

theorem countOf_increment (key other : α) :
    countOf (increment tally key) other=countOf tally other+if key=other then 1 else 0 := by
  unfold increment countOf
  rcases eq_or_ne key other with rfl|hne
  · rw [if_pos rfl]
    split
    next hlookup => rw [lookup_insert,hlookup,getD_some,getD_some]
    next hlookup => rw [lookup_insert,hlookup,getD_some,getD_none]
  · rw [if_neg hne]
    split
    · rw [lookup_insert_ne hne.symm,Nat.add_zero]
    · rw [lookup_insert_ne hne.symm,Nat.add_zero]

theorem countOf_decrement (key other : α) :
    countOf (decrement tally key) other=countOf tally other-if key=other then 1 else 0 := by
  unfold decrement countOf
  rcases eq_or_ne key other with rfl|hne
  · rw [if_pos rfl]
    split
    next count hlookup =>
      rw [hlookup,getD_some]
      split
      next hzero => rw [lookup_erase,hzero,getD_none]
      · rw [lookup_insert,getD_some]
    next hlookup => rw [hlookup,getD_none]
  · rw [if_neg hne]
    split
    · split
      · rw [lookup_erase_ne hne.symm,Nat.sub_zero]
      · rw [lookup_insert_ne hne.symm,Nat.sub_zero]
    · rfl

end

variable {key : α}

theorem lookup_of_countOf_pos {tally : AList fun _ : α => ℕ} (h : 0<countOf tally key) :
    tally.lookup key=some (countOf tally key) := by
  unfold countOf at h ⊢
  cases hlookup : tally.lookup key with
  | none =>
    rw [hlookup] at h
    exact (Nat.lt_irrefl 0 h).elim
  | some => rfl

variable (kind : β → Bool)

/-- How many entries of a map are of a kind. -/
def entriesOf (map : AList fun _ : α => β) : ℕ := map.entries.countP fun entry => kind entry.2

variable {map : AList fun _ : α => β}

theorem entriesOf_insert (hnew : key∉map) (value : β) :
    entriesOf kind (map.insert key value)=entriesOf kind map+if kind value=true then 1 else 0 := by
  unfold entriesOf
  rw [entries_insert_of_notMem hnew,List.countP_cons]

theorem entriesOf_erase {value : β} (h : map.lookup key=some value) :
    entriesOf kind map=entriesOf kind (map.erase key)+if kind value=true then 1 else 0 := by
  unfold entriesOf
  rw [(MapFolds.entries_perm h).countP_eq,List.countP_cons]

theorem entriesOf_pos : 0<entriesOf kind map ↔ ∃ key,∃ value∈map.lookup key,kind value=true := by
  unfold entriesOf
  rw [List.countP_pos_iff]
  constructor
  · rintro ⟨⟨key,value⟩,hmem,hkind⟩
    exact ⟨key,value,List.mem_dlookup map.nodupKeys hmem,hkind⟩
  · rintro ⟨key,value,hlookup,hkind⟩
    exact ⟨⟨key,value⟩,List.of_mem_dlookup hlookup,hkind⟩

end AlexaClientSDK.Tallies
