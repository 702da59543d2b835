import Mathlib.Data.List.Basic

/-!
# Requests that are retried in rounds

A round asks the items of a list in turn up to the first one that refuses. Rounds are repeated until one goes through, a
wait is cancelled, or the attempts are used up. An item keeps what it has become by being asked, also in a round that
failed.
-/

namespace AlexaClientSDK.RetryRounds

variable {α σ : Type*}

/-- One round: the items are asked in turn until one refuses. -/
def askAll (ask : α → Bool × α) : List α → Bool × List α
  | [] => (true,[])
  | item::items =>
    if (ask item).1 then ((askAll ask items).1,(ask item).2::(askAll ask items).2) else (false,(ask item).2::items)

/-- Rounds until one goes through, a wait is cancelled, or none is left. -/
def retry (round : σ → Bool × σ) (cancelled : ℕ → Bool) : ℕ → ℕ → σ → σ
  | 0,_,s => s
  | left+1,attempt,s =>
    if (round s).1 then (round s).2
    else if cancelled attempt then (round s).2
    else retry round cancelled left (attempt+1) (round s).2

/-- An item that is asked once in each round accepts in one of them. -/
def acceptsWithin (ask : α → Bool × α) (cancelled : ℕ → Bool) : ℕ → ℕ → α → Bool
  | 0,_,_ => false
  | left+1,attempt,item =>
    (ask item).1 || (!cancelled attempt && acceptsWithin ask cancelled left (attempt+1) (ask item).2)

variable {ask : α → Bool × α} {good : α → Prop} {items : List α}

/-- What asking does not change for the worse survives a round. -/
theorem askAll_forall (hask : ∀ item,good item → good (ask item).2) (h : ∀ item∈items,good item) :
    ∀ item∈(askAll ask items).2,good item := by
  induction items with
  | nil => exact h
  | cons first items ih =>
    obtain ⟨hfirst,hitems⟩ := List.forall_mem_cons.mp h
    unfold askAll
    split
    · exact List.forall_mem_cons.mpr ⟨hask first hfirst,ih hitems⟩
    · exact List.forall_mem_cons.mpr ⟨hask first hfirst,hitems⟩

/-- In a round that went through, every item accepted. -/
theorem askAll_accepted (h : (askAll ask items).1=true) : ∀ item∈items,(ask item).1=true := by
  induction items with
  | nil => exact fun item hitem => absurd hitem List.not_mem_nil
  | cons first items ih =>
    unfold askAll at h
    split at h
    · next hfirst => exact List.forall_mem_cons.mpr ⟨hfirst,ih h⟩
    · cases h

/-- The first item is asked, and the round goes on only if it accepts. -/
theorem askAll_cons (ask : α → Bool × α) (first : α) (items : List α) :
    ∃ rest,(askAll ask (first::items)).2=(ask first).2::rest ∧
      ((askAll ask (first::items)).1=true → (ask first).1=true) := by
  unfold askAll
  split
  · next h => exact ⟨_,rfl,fun _ => h⟩
  · exact ⟨_,rfl,fun h => absurd h Bool.false_ne_true⟩

/-- What survives a round survives all of them. -/
theorem retry_invariant {round : σ → Bool × σ} {cancelled : ℕ → Bool} {good : σ → Prop}
    (hround : ∀ s,good s → good (round s).2) (left attempt : ℕ) {s : σ} (h : good s) :
    good (retry round cancelled left attempt s) := by
  induction left generalizing attempt s with
  | zero => exact h
  | succ left ih =>
    unfold retry
    split
    · exact hround s h
    · split
      · exact hround s h
      · exact ih (attempt+1) (hround s h)

/-- What asking does not change for the worse survives the rounds. -/
theorem retry_forall {cancelled : ℕ → Bool} (hask : ∀ item,good item → good (ask item).2) (left attempt : ℕ)
    (h : ∀ item∈items,good item) : ∀ item∈retry (askAll ask) cancelled left attempt items,good item :=
  @retry_invariant _ (askAll ask) cancelled (fun items => ∀ item∈items,good item) (fun _ => askAll_forall hask) left
    attempt items h

/-- A property of the first item survives the rounds like one of all items. -/
theorem retry_head {cancelled : ℕ → Bool} (hask : ∀ item,good item → good (ask item).2) (left attempt : ℕ)
    (h : ∃ first rest,items=first::rest ∧ good first) :
    ∃ first rest,retry (askAll ask) cancelled left attempt items=first::rest ∧ good first := by
  refine @retry_invariant _ (askAll ask) cancelled (fun items => ∃ first rest,items=first::rest ∧ good first)
    (fun items hitems => ?_) left attempt items h
  obtain ⟨first,rest,rfl,hfirst⟩ := hitems
  obtain ⟨others,hround,_⟩ := askAll_cons ask first rest
  exact ⟨(ask first).2,others,hround,hask first hfirst⟩

/-- Where it accepts once, the first item is as accepting makes it. -/
theorem retry_head_accepted {cancelled : ℕ → Bool}
    (hask : ∀ item,good item → good (ask item).2) (haccept : ∀ item,(ask item).1=true → good (ask item).2)
    (left attempt : ℕ) {first : α} (h : acceptsWithin ask cancelled left attempt first=true) :
    ∃ head rest,retry (askAll ask) cancelled left attempt (first::items)=head::rest ∧ good head := by
  induction left generalizing attempt first items with
  | zero => cases h
  | succ left ih =>
    obtain ⟨rest,hround,hthrough⟩ := askAll_cons ask first items
    unfold retry
    rw [hround]
    unfold acceptsWithin at h
    by_cases hfirst : (ask first).1=true
    · have hgood := haccept first hfirst
      split
      · exact ⟨_,rest,rfl,hgood⟩
      · split
        · exact ⟨_,rest,rfl,hgood⟩
        · exact retry_head hask left (attempt+1) ⟨_,rest,rfl,hgood⟩
    · rw [Bool.not_eq_true] at hfirst
      rw [hfirst,Bool.false_or] at h
      obtain ⟨hwait,hlater⟩ := Bool.and_eq_true_iff.mp h
      have hfailed : ¬(askAll ask (first::items)).1=true := fun hall => by
        rw [hthrough hall] at hfirst
        cases hfirst
      have hwaited : ¬cancelled attempt=true := by
        rw [Bool.not_eq_true'] at hwait
        rw [hwait]
        exact Bool.false_ne_true
      rw [if_neg hfailed,if_neg hwaited]
      exact ih (attempt+1) hlater

/-- What an item answers does not depend on what asking leaves alone. -/
theorem acceptsWithin_congr {cancelled : ℕ → Bool} {change : α → α}
    (hanswer : ∀ item,(ask (change item)).1=(ask item).1)
    (hnext : ∀ item,(ask (change item)).2=change (ask item).2) (left attempt : ℕ) (item : α) :
    acceptsWithin ask cancelled left attempt (change item)=acceptsWithin ask cancelled left attempt item := by
  induction left generalizing attempt item with
  | zero => rfl
  | succ left ih =>
    unfold acceptsWithin
    rw [hanswer,hnext,ih]

end AlexaClientSDK.RetryRounds
