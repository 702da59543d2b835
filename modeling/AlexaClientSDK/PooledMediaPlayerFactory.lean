import Mathlib.Data.List.Perm.Basic

/-!
# The pool of media players

`PooledMediaPlayerFactory` keeps the players nobody uses and those that were acquired; together they are the players it
was made with. A ledger relates the pools to the players somebody holds; there is an exact one, and one that bears
players in use that nobody holds.
-/

namespace AlexaClientSDK.PooledMediaPlayerFactory

open List

/-- The two pools of a `PooledMediaPlayerFactory`. -/
structure Factory (π : Type) where
  available : List π
  inUse : List π

variable {π : Type}

def create (pool : List π) : Factory π := ⟨pool,[]⟩

section

variable (f : Factory π)

def Factory.isMediaPlayerAvailable : Bool := !f.available.isEmpty

/-- The player that is longest available goes into use. -/
def Factory.acquireMediaPlayer : Option π × Factory π :=
  match f.available with
  | [] => (none,f)
  | player::rest => (some player,⟨rest,f.inUse++[player]⟩)

/-- `releaseMediaPlayer`: a player that is not in use is refused. -/
def Factory.releaseMediaPlayer [DecidableEq π] (player : π) : Bool × Factory π :=
  if player∈f.inUse then (true,⟨f.available++[player],f.inUse.erase player⟩) else (false,f)

/-- All players of the pool, wherever they are. -/
def Factory.players : List π := f.available++f.inUse

theorem acquireMediaPlayer_some {f g : Factory π} {player : π} (h : f.acquireMediaPlayer=(some player,g)) :
    f.available=player::g.available ∧ g.inUse=f.inUse++[player] := by
  unfold Factory.acquireMediaPlayer at h
  split at h
  · cases h
  · next _ rest havailable =>
    cases h
    exact ⟨havailable,rfl⟩

theorem acquireMediaPlayer_none {f g : Factory π} (h : f.acquireMediaPlayer=(none,g)) : f.available=[] ∧ g=f := by
  unfold Factory.acquireMediaPlayer at h
  split at h
  · next havailable =>
    cases h
    exact ⟨havailable,rfl⟩
  · cases h

theorem players_acquireMediaPlayer : (f.acquireMediaPlayer).2.players.Perm f.players := by
  cases hacquired : f.acquireMediaPlayer with
  | mk answer g =>
    cases answer with
    | none =>
      rw [(acquireMediaPlayer_none hacquired).2]
    | some player =>
      have ⟨havailable,hinUse⟩ := acquireMediaPlayer_some hacquired
      unfold Factory.players
      rw [havailable,hinUse,←append_assoc]
      exact perm_append_singleton player _

end

section

variable [DecidableEq π]

theorem players_releaseMediaPlayer (f : Factory π) (player : π) :
    (f.releaseMediaPlayer player).2.players.Perm f.players := by
  unfold Factory.releaseMediaPlayer
  split
  · next hmem =>
    unfold Factory.players
    rw [append_assoc]
    exact (perm_cons_erase hmem).symm.append_left f.available
  · exact List.Perm.refl _

theorem available_releaseMediaPlayer {f : Factory π} {player : π} (hmem : player∈f.inUse) :
    (f.releaseMediaPlayer player).2.available=f.available++[player] := by
  unfold Factory.releaseMediaPlayer
  rw [if_pos hmem]

/-- What survives acquisitions and releases of somebody's players. -/
structure Ledger (π : Type) [DecidableEq π] where
  /-- The relation of the pools and the players that are held. -/
  balances : Factory π → List π → Prop
  /-- Who holds what in another order makes no difference. -/
  perm : ∀ {f held held'},balances f held → held'.Perm held → balances f held'
  /-- A holder gives its player back. -/
  release : ∀ {f player held},balances f (player::held) →
    balances (f.releaseMediaPlayer player).2 held
  acquire : ∀ {f g player held},balances f held → f.acquireMediaPlayer=(some player,g) →
    balances g (player::held)

/-- The ledger bears that a holder loses its player without giving it back. -/
def Ledger.Lossy (L : Ledger π) : Prop :=
  ∀ {f : Factory π} {player : π} {held : List π},L.balances f (player::held) → L.balances f held

/-- A player is held as often as it was acquired, and the pool is whole. -/
def Ledger.exact (pool : List π) : Ledger π where
  balances f held := held.Perm f.inUse ∧ f.players.Perm pool
  perm h hperm := ⟨hperm.trans h.1,h.2⟩
  release := by
    intro f player held h
    have hmem : player∈f.inUse := h.1.subset mem_cons_self
    refine ⟨?_,(players_releaseMediaPlayer f player).trans h.2⟩
    unfold Factory.releaseMediaPlayer
    rw [if_pos hmem]
    exact (h.1.trans (perm_cons_erase hmem)).cons_inv
  acquire := by
    intro f g player held h hacquired
    have hplayers := players_acquireMediaPlayer f
    rw [hacquired] at hplayers
    refine ⟨?_,hplayers.trans h.2⟩
    rw [(acquireMediaPlayer_some hacquired).2]
    exact (h.1.cons player).trans (perm_append_singleton player _).symm

/-- Every player that is held is in use; others may be as well. -/
def Ledger.shared : Ledger π where
  balances f held := held.Subperm f.inUse
  perm h hperm := hperm.subperm.trans h
  release := by
    intro f player held h
    have hmem : player∈f.inUse := h.subset mem_cons_self
    unfold Factory.releaseMediaPlayer
    rw [if_pos hmem]
    have herased := h.erase player
    rw [erase_cons_head] at herased
    exact herased
  acquire := by
    intro f g player held h hacquired
    rw [(acquireMediaPlayer_some hacquired).2]
    have hcons : (player::held).Subperm (player::f.inUse) := subperm_cons player |>.mpr h
    exact hcons.trans (perm_append_singleton player _).symm.subperm

/-- A player in use that nobody holds is no fault of that ledger. -/
theorem lossy_shared : (Ledger.shared : Ledger π).Lossy := by
  intro f player held h
  exact ((sublist_cons_self player held).subperm).trans h

end

end AlexaClientSDK.PooledMediaPlayerFactory
