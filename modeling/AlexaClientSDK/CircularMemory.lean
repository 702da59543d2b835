import Mathlib.Data.List.OfFn
import Mathlib.Data.List.TakeDrop
import Mathlib.Data.Int.ModEq

/-!
# Circular memory holding the tail of an unbounded stream

A block of `N` cells is written and read in two pieces around its end. The specification is one list: cell `k % N` holds
element `k` for every element among the last `N` written. Both copies are exact for it, whatever the block size.
-/

namespace AlexaClientSDK.CircularMemory

open Nat List

variable {α : Type*} {N : ℕ}

section

variable (mem : Fin N → α)

/-- Overwrite the cells from `off` on with the elements of `src`. -/
def memcpy (off : ℕ) (src : List α) : Fin N → α :=
  fun i => if h : off ≤ i.val ∧ i.val-off<src.length then src.get ⟨i.val-off,h.2⟩ else mem i

/-- The `n` cells from `off` on, in order. -/
def fetch (off n : ℕ) : List α := ((List.ofFn mem).drop off).take n

/-- Cells left before position `pos` wraps around. -/
def untilWrap (N pos : ℕ) : ℕ := N-pos%N

/-- Write `src` at stream position `pos`, in two pieces when it wraps. -/
def circularWrite (pos : ℕ) (src : List α) : Fin N → α :=
  let before := min (untilWrap N pos) src.length
  memcpy (memcpy mem (pos%N) (src.take before)) ((pos+before)%N) (src.drop before)

/-- Read `n` cells from stream position `pos`, in two pieces when it wraps. -/
def circularRead (pos n : ℕ) : List α :=
  let before := min (untilWrap N pos) n
  fetch mem (pos%N) before++fetch mem ((pos+before)%N) (n-before)

/-- Every element among the last `N` of `stream` sits in its own cell. -/
def Holds (stream : List α) : Prop :=
  ∀ (i : Fin N) (k : ℕ),k%N=i.val → (hk : k<stream.length) → stream.length≤k+N → mem i=stream.get ⟨k,hk⟩

/-- The empty stream is held by any block. -/
theorem holds_nil : Holds mem [] := by
  intro i k _ hk
  simp at hk

end

variable {mem : Fin N → α} {off : ℕ} {src : List α} {i : Fin N}

/-- A cell outside the copied range keeps its content. -/
theorem memcpy_of_not_mem (h : i.val<off ∨ off+src.length ≤ i.val) : memcpy mem off src i=mem i := by
  unfold memcpy
  rw [dif_neg]
  rintro ⟨hl,hr⟩
  omega

/-- A cell inside the copied range receives the matching source element. -/
theorem memcpy_of_mem {k : ℕ} (hk : k<src.length) (hi : i.val=off+k) : memcpy mem off src i=src.get ⟨k,hk⟩ := by
  have hsub : i.val-off=k := by omega
  unfold memcpy
  rw [dif_pos ⟨by omega,by omega⟩]
  simp only [hsub]

variable {pos d : ℕ}

/-- The position of an element in the block, one turn at a time. -/
theorem mod_of_turn (hd : pos%N+d<N) : (pos+d)%N=pos%N+d := by
  conv_lhs => rw [←div_add_mod pos N,add_assoc,mul_add_mod]
  exact mod_eq_of_lt hd

/-- The position of an element written after the block was wrapped once. -/
theorem mod_of_next_turn (hl : N≤pos%N+d) (hr : pos%N+d<2*N) : (pos+d)%N=pos%N+d-N := by
  conv_lhs => rw [←div_add_mod pos N,add_assoc,mul_add_mod]
  rw [mod_eq_sub_mod hl]
  exact mod_eq_of_lt (by omega)

/-- Two stream positions less than one turn apart share no cell. -/
theorem mod_ne_of_close {i j : ℕ} (h : i<j) (hj : j < i+N) : i%N≠j%N := by
  intro heq
  have hd : N ∣ j-i := (modEq_iff_dvd' h.le).mp heq
  have hle := le_of_dvd (by omega) hd
  omega

/-- It starts at cell zero, and the first ends at the block's end. -/
theorem wrap_mod (hN : 0<N) : (pos+untilWrap N pos)%N=0 := by
  have hlt := mod_lt pos hN
  have he : (pos+untilWrap N pos)%N=pos%N+untilWrap N pos-N :=
    mod_of_next_turn (by unfold untilWrap; omega) (by unfold untilWrap; omega)
  rw [he]
  unfold untilWrap
  omega

/-- The cell written for element `d` of the source, before or after the wrap. -/
theorem circularWrite_at (hlen : src.length≤N) (hd : d<src.length) (hi : (pos+d)%N=i.val) :
    circularWrite mem pos src i=src.get ⟨d,hd⟩ := by
  have hN : 0<N := by omega
  have hlt := mod_lt pos hN
  unfold circularWrite
  rcases lt_or_ge (pos%N+d) N with hc|hc
  · -- first piece: the second one lies behind cell `d`, below `pos % N`
    rw [mod_of_turn hc] at hi
    have hb : d < min (untilWrap N pos) src.length := by unfold untilWrap; omega
    have hout : memcpy (memcpy mem (pos%N) (src.take (min (untilWrap N pos) src.length)))
        ((pos+min (untilWrap N pos) src.length)%N)
        (src.drop (min (untilWrap N pos) src.length)) i =
        memcpy mem (pos%N) (src.take (min (untilWrap N pos) src.length)) i := by
      apply memcpy_of_not_mem
      rcases lt_or_ge (untilWrap N pos) src.length with hw|hw
      · rw [min_eq_left hw.le,wrap_mod hN,length_drop]
        unfold untilWrap at *
        omega
      · rw [min_eq_right hw,length_drop]
        omega
    rw [hout,memcpy_of_mem (k := d) (by rw [length_take]; omega) (by omega)]
    simp
  · -- second piece, counted from cell zero
    rw [mod_of_next_turn hc (by omega)] at hi
    have hw : untilWrap N pos≤d := by unfold untilWrap; omega
    have hmin : min (untilWrap N pos) src.length=untilWrap N pos := by omega
    rw [hmin,wrap_mod hN,memcpy_of_mem (k := d-untilWrap N pos)
      (by rw [length_drop]; omega) (by unfold untilWrap at *; omega)]
    simp only [get_eq_getElem,getElem_drop]
    congr 1
    omega

/-- Cells less than one turn before the end of the write survive. -/
theorem circularWrite_keeps {k : ℕ} (hk : k<pos) (hkeep : pos+src.length≤k+N)
    (hi : k%N=i.val) : circularWrite mem pos src i=mem i := by
  have hN : 0<N := by omega
  have hlt := mod_lt pos hN
  have hoff : ∀ d,d<src.length → (pos+d)%N≠i.val := by
    intro d hd he
    exact mod_ne_of_close (by omega : k<pos+d) (by omega) (hi.trans he.symm)
  have hfirst : memcpy mem (pos%N) (src.take (min (untilWrap N pos) src.length)) i=mem i := by
    apply memcpy_of_not_mem
    rw [length_take]
    by_contra hcon
    have hd : i.val-pos%N<src.length := by omega
    refine hoff (i.val-pos%N) hd ?_
    rw [mod_of_turn (by omega)]
    omega
  rw [←hfirst]
  apply memcpy_of_not_mem
  rcases lt_or_ge (untilWrap N pos) src.length with hw|hw
  · rw [min_eq_left hw.le,wrap_mod hN,length_drop]
    by_contra hcon
    have hd : untilWrap N pos+i.val<src.length := by omega
    refine hoff (untilWrap N pos+i.val) hd ?_
    rw [mod_of_next_turn (by unfold untilWrap; omega) (by unfold untilWrap; omega)]
    unfold untilWrap
    omega
  · rw [min_eq_right hw,length_drop]
    omega

/-- A write of at most one turn extends the held stream by its source. -/
theorem holds_circularWrite {stream : List α} (hlen : src.length≤N) (h : Holds mem stream) :
    Holds (circularWrite mem stream.length src) (stream++src) := by
  intro i k hi hk hwin
  rw [length_append] at hk hwin
  rcases lt_or_ge k stream.length with hold|hnew
  · rw [circularWrite_keeps hold hwin hi,h i k hi hold (by omega)]
    simp only [get_eq_getElem,getElem_append_left hold]
  · have hd : k-stream.length<src.length := by omega
    rw [circularWrite_at hlen hd (by rw [←hi]; congr 1; omega)]
    simp only [get_eq_getElem,getElem_append_right hnew]

variable {n : ℕ}

/-- A fetched cell, by its distance from the first one. -/
theorem fetch_getElem? (hd : d<n) (hin : off+d<N) : (fetch mem off n)[d]?=some (mem ⟨off+d,hin⟩) := by
  unfold fetch
  rw [List.getElem?_take_of_lt hd,List.getElem?_drop,List.getElem?_ofFn,dif_pos hin]

/-- A fetch inside the block returns as many cells as asked for. -/
theorem fetch_length (h : off+n≤N) : (fetch mem off n).length=n := by
  unfold fetch
  rw [length_take,length_drop,length_ofFn]
  omega

/-- Written without a wrap it is fetched as it was. -/
theorem fetch_circularWrite (hlen : src.length≤N) (hd : d+n ≤ src.length) (hturn : (pos+d)%N+n≤N) :
    fetch (circularWrite mem pos src) ((pos+d)%N) n=(src.drop d).take n := by
  apply ext_getElem?
  intro k
  rcases lt_or_ge k n with hk|hk
  · have hin : (pos+d)%N+k<N := by omega
    have hcell : (pos+(d+k))%N=(pos+d)%N+k := by
      rw [←add_assoc,mod_of_turn hin]
    rw [fetch_getElem? hk hin,circularWrite_at hlen (by omega : d+k<src.length) hcell,List.getElem?_take_of_lt hk,
      List.getElem?_drop,List.getElem?_eq_getElem (by omega)]
    rfl
  · rw [List.getElem?_eq_none (by rw [fetch_length hturn]; exact hk),
      List.getElem?_eq_none (by rw [length_take]; omega)]

/-- Every block holds the stream that goes round in it. -/
theorem holds_turning (mem : Fin N → α) (hN : 0<N) (length : ℕ) :
    Holds mem (List.ofFn fun k : Fin length => mem ⟨k.val%N,mod_lt _ hN⟩) := by
  intro i k hi hk _
  rw [List.get_eq_getElem,List.getElem_ofFn]
  exact congrArg mem (Fin.ext hi.symm)

/-- Reading a window that is still held returns the stream's own elements. -/
theorem circularRead_eq {stream : List α}
    (h : Holds mem stream) (hwin : stream.length≤pos+N) (hend : pos+n ≤ stream.length) :
    circularRead mem pos n=(stream.drop pos).take n := by
  rcases Nat.eq_zero_or_pos n with rfl|hn
  · simp [circularRead,fetch]
  have hN : 0<N := by omega
  have hlt := mod_lt pos hN
  have hcell : ∀ d (hd : d<n) (i : Fin N),(pos+d)%N=i.val → mem i=stream.get ⟨pos+d,by omega⟩ := by
    intro d hd i hi
    exact h i (pos+d) hi (by omega) (by omega)
  have hbefore : min (untilWrap N pos) n+pos%N≤N := by unfold untilWrap; omega
  apply ext_getElem?
  intro d
  simp only [circularRead]
  rcases lt_or_ge d n with hd|hd
  · have hright : ((stream.drop pos).take n)[d]?=some (stream.get ⟨pos+d,by omega⟩) := by
      rw [List.getElem?_take_of_lt hd,List.getElem?_drop,List.getElem?_eq_getElem (by omega)]
      rfl
    rw [hright]
    rcases lt_or_ge d (min (untilWrap N pos) n) with hb|hb
    · -- cell of the first piece
      have hin : pos%N+d<N := by omega
      have hfirst : (fetch mem (pos%N) (min (untilWrap N pos) n)).length =
          min (untilWrap N pos) n := fetch_length (by omega)
      rw [List.getElem?_append_left (by omega),fetch_getElem? hb hin]
      exact congrArg some (hcell d hd ⟨pos%N+d,hin⟩ (mod_of_turn hin))
    · -- cell of the second piece, which starts at cell zero
      have hw : min (untilWrap N pos) n=untilWrap N pos := by omega
      have hin : 0+(d-untilWrap N pos)<N := by unfold untilWrap at *; omega
      have hfirst : (fetch mem (pos%N) (untilWrap N pos)).length=untilWrap N pos :=
        fetch_length (by omega)
      rw [hw,wrap_mod hN,List.getElem?_append_right (by omega),hfirst,fetch_getElem? (by omega) hin]
      refine congrArg some (hcell d hd ⟨0+(d-untilWrap N pos),hin⟩ ?_)
      rw [mod_of_next_turn (by unfold untilWrap at *; omega) (by omega)]
      unfold untilWrap at *
      dsimp only
      omega
  · have hl : (fetch mem (pos%N) (min (untilWrap N pos) n) ++
        fetch mem ((pos+min (untilWrap N pos) n)%N) (n-min (untilWrap N pos) n)).length≤d := by
      rw [length_append]
      unfold fetch
      rw [length_take,length_take]
      omega
    rw [List.getElem?_eq_none hl,List.getElem?_eq_none (by rw [length_take]; omega)]

end AlexaClientSDK.CircularMemory
