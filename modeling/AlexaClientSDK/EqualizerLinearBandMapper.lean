import Mathlib.Algebra.Order.BigOperators.Group.List
import Mathlib.Data.List.Infix
import Mathlib.Tactic.Ring
import Mathlib.Tactic.Linarith

/-!
# Mapping bands linearly

`mapEqualizerBands` gives the target `i` of `m` the mean of the source levels from `⌊i*n/m⌋` up to `⌈(i+1)*n/m⌉`. The
levels are summed one by one as integers of 32 bits.
-/

namespace AlexaClientSDK.EqualizerLinearBandMapper

open List

def IsInt (value : ℤ) : Prop := -2^31≤value ∧ value < 2^31

instance : DecidablePred IsInt := fun value => inferInstanceAs (Decidable (-2^31≤value ∧ value < 2^31))

/-- The sum of two integers is undefined where it does not fit. -/
def add (level next : ℤ) : Option ℤ := if IsInt (level+next) then some (level+next) else none

/-- The loop over the targets where there are not more sources than targets. -/
def mapToMore (m : ℕ) (levels : List ℤ) : ℕ → ℕ → ℕ → ℤ → Option (List (ℕ × ℤ))
  | 0,_,_,_ => some []
  | left+1,i,outBandIndex,accumulator => do
    let level ← levels[outBandIndex]?
    let accumulator := accumulator-levels.length
    if accumulator < 1 then
      let level ← if accumulator < 0 then do
          let next ← levels[outBandIndex+1]?
          let sum ← add level next
          some (sum.tdiv 2)
        else some level
      let calls ← mapToMore m levels left (i+1) (outBandIndex+1) (accumulator+m)
      some ((i,level)::calls)
    else
      let calls ← mapToMore m levels left (i+1) outBandIndex accumulator
      some ((i,level)::calls)

/-- The loop over the sources where there are more of them. -/
def mapToFewer (m n : ℕ) : List ℤ → ℕ → ℤ → ℤ → ℕ → Option (List (ℕ × ℤ))
  | [],_,_,_,_ => some []
  | next::rest,outBandIndex,accumulator,level,bandsGrouped => do
    let level ← add level next
    let bandsGrouped := bandsGrouped+1
    let accumulator := accumulator-m
    if accumulator < 1 then
      let accumulator := accumulator+n
      let calls ← if accumulator < n then mapToFewer m n rest (outBandIndex+1) accumulator next 1
        else mapToFewer m n rest (outBandIndex+1) accumulator 0 0
      some ((outBandIndex,level.tdiv bandsGrouped)::calls)
    else mapToFewer m n rest outBandIndex accumulator level bandsGrouped

/-- The levels of the bands that the map has, in the order of the bands. -/
def sourceLevels {β : Type} (equalizerBandValues : List β) (bandLevelMap : β → Option Int32) : List ℤ :=
  (equalizerBandValues.filterMap bandLevelMap).map Int32.toInt

/-- None where a level outside the list is read or a sum is undefined. -/
def mapEqualizerBands {β : Type} (equalizerBandValues : List β) (m : ℕ) (bandLevelMap : β → Option Int32) :
    Option (List (ℕ × ℤ)) :=
  let levels := sourceLevels equalizerBandValues bandLevelMap
  if levels=[] then some []
  else if levels.length ≤ m then mapToMore m levels m 0 0 m
  else mapToFewer m levels.length levels 0 levels.length 0 0

/-- The source levels that a target is made of. -/
def share (m : ℕ) (levels : List ℤ) (i : ℕ) : List ℤ :=
  (levels.drop (i*levels.length/m)).take (((i+1)*levels.length+m-1)/m-i*levels.length/m)

def total (levels : List ℤ) : Option ℤ := levels.foldlM add 0

def band (m : ℕ) (levels : List ℤ) (i : ℕ) : Option (ℕ × ℤ) :=
  (total (share m levels i)).map fun sum => (i,sum.tdiv (share m levels i).length)

variable {levels : List ℤ}

theorem share_eq {m i o k : ℕ} (hle : o*m ≤ i*levels.length) (hlt : i*levels.length < (o+1)*m)
    (hpast : (i+1)*levels.length≤(o+k)*m) (hlast : (o+k)*m < (i+1)*levels.length+m) :
    share m levels i=(levels.drop o).take k := by
  have hfirst : i*levels.length/m=o := Nat.div_eq_of_lt_le hle hlt
  have hsucc : (o+k+1)*m=(o+k)*m+m := Nat.succ_mul _ _
  have hend : ((i+1)*levels.length+m-1)/m=o+k := Nat.div_eq_of_lt_le (by omega) (by omega)
  rw [share,hfirst,hend,Nat.add_sub_cancel_left]

theorem total_append (front back : List ℤ) :
    total (front++back)=(total front).bind fun sum => back.foldlM add sum := foldlM_append

theorem total_take_none {j k : ℕ} (hle : j≤k) (h : total (levels.take j)=none) : total (levels.take k)=none := by
  obtain ⟨d,rfl⟩ := Nat.exists_eq_add_of_le hle
  rw [take_add,total_append,h]
  rfl

theorem total_cons {level : ℤ} (h : IsInt level) (levels : List ℤ) : total (level::levels)=levels.foldlM add level := by
  have hadd : add 0 level=some level := by rw [add,zero_add,if_pos h]
  rw [total,foldlM_cons,hadd]
  rfl

variable {m i : ℕ}

theorem band_of_one {level : ℤ} (hshare : share m levels i=[level]) (h : IsInt level) :
    band m levels i=some (i,level) := by
  rw [band,hshare,total_cons h]
  exact congrArg (fun value => some (i,value)) (Int.tdiv_one level)

theorem band_of_two {level next : ℤ} (hshare : share m levels i=[level,next])
    (h : IsInt level) : band m levels i=(add level next).map fun sum => (i,sum.tdiv 2) := by
  rw [band,hshare,total_cons h,foldlM_cons]
  cases add level next with
  | none | some => rfl

/-- They say together how far the targets are. -/
theorem mapToMore_eq (hints : ∀ level∈levels,IsInt level) (hn : 0 < levels.length)
    (hle : levels.length ≤ m) (left i o : ℕ) (accumulator : ℤ) (hleft : i+left=m)
    (hacc : accumulator=(o+1)*m-i*levels.length) (hpos : 1≤accumulator) (hmost : accumulator ≤ m) :
    mapToMore m levels left i o accumulator=(range' i left).mapM (band m levels) := by
  induction left generalizing i o accumulator with
  | zero => rfl
  | succ left ih =>
    have hfirst : o*m ≤ i*levels.length := by zify; linarith
    have hbelow : i*levels.length < (o+1)*m := by zify; linarith
    have hall : (i+1)*levels.length ≤ m*levels.length := Nat.mul_le_mul_right _ (by omega)
    have hsucc : (i+1)*levels.length=i*levels.length+levels.length := Nat.succ_mul _ _
    have hsource : (o+1)*m=o*m+m := Nat.succ_mul _ _
    have hnext : (o+2)*m=(o+1)*m+m := Nat.succ_mul _ _
    rw [mul_comm m] at hall
    have ho : o < levels.length := Nat.lt_of_mul_lt_mul_right (a := m) (by omega)
    have hint : IsInt levels[o] := hints _ (getElem_mem ho)
    have hone : (i+1)*levels.length≤(o+1)*m → band m levels i=some (i,levels[o]) := by
      intro hwithin
      refine band_of_one ?_ hint
      rw [share_eq hfirst hbelow (k := 1) hwithin (by omega),drop_eq_getElem_cons ho]
      rfl
    rw [mapToMore,getElem?_eq_getElem ho,range'_succ,mapM_cons]
    dsimp only [Option.bind_eq_bind,Option.bind_some]
    split
    next hclose =>
      split
      next hcross =>
        have hover : (o+1)*m < (i+1)*levels.length := by zify; linarith
        have ho' : o+1 < levels.length := Nat.lt_of_mul_lt_mul_right (a := m) (by omega)
        have hshare : share m levels i=[levels[o],levels[o+1]] := by
          rw [share_eq hfirst hbelow (k := 2) (by omega) (by omega),drop_eq_getElem_cons ho,drop_eq_getElem_cons ho']
          rfl
        rw [band_of_two hshare hint,getElem?_eq_getElem ho',Option.bind_some]
        cases add levels[o] levels[o+1] with
        | none => rfl
        | some sum =>
          dsimp only [Option.bind_some,Option.map_some]
          rw [ih (i+1) (o+1) _ (by omega) (by push_cast; linarith) (by omega) (by omega)]
          rfl
      next hreached =>
        rw [hone (by zify; linarith),ih (i+1) (o+1) _ (by omega) (by push_cast; linarith) (by omega) (by omega)]
        rfl
    next hopen =>
      rw [hone (by zify; linarith),ih (i+1) o _ (by omega) (by push_cast; linarith) (by omega) (by omega)]
      rfl

/-- They say together how far the sources are. -/
theorem mapToFewer_eq (hints : ∀ level∈levels,IsInt level) (hlt : m < levels.length)
    (hm : 0 < m) (rest : List ℤ) (i first out grouped : ℕ) (accumulator level : ℤ) (hrest : levels.drop i=rest)
    (hi : i=first+grouped) (hfirst : first*m≤out*levels.length) (hbelow : out*levels.length < (first+1)*m)
    (hacc : accumulator=(out+1)*levels.length-i*m) (hpos : 1≤accumulator) (hmost : accumulator≤levels.length)
    (htotal : total ((levels.drop first).take grouped)=some level) :
    mapToFewer m levels.length rest out accumulator level grouped= (range' out (m-out)).mapM (band m levels) := by
  induction rest generalizing i first out grouped accumulator level with
  | nil =>
    have hend : levels.length*m ≤ i*m := Nat.mul_le_mul_right _ (drop_eq_nil_iff.mp hrest)
    have hover : i*m < (out+1)*levels.length := by zify; linarith
    rw [mul_comm levels.length] at hend
    have hall : m < out+1 := Nat.lt_of_mul_lt_mul_right (hend.trans_lt hover)
    rw [Nat.sub_eq_zero_of_le (by omega)]
    rfl
  | cons next rest ih =>
    have hlast : i < levels.length := length_lt_of_drop_ne_nil (by rw [hrest]; exact cons_ne_nil _ _)
    have hused : out*levels.length ≤ i*m := by zify; linarith
    have hall : i*m < levels.length*m := Nat.mul_lt_mul_of_pos_right hlast hm
    rw [mul_comm levels.length] at hall
    have hout : out < m := Nat.lt_of_mul_lt_mul_right (hused.trans_lt hall)
    have hsource : (i+1)*m=i*m+m := Nat.succ_mul _ _
    have htarget : (out+1)*levels.length=out*levels.length+levels.length := Nat.succ_mul _ _
    have hdrop : levels.drop (i+1)=rest := by rw [←tail_drop,hrest,tail_cons]
    have hint : IsInt next := hints next (mem_of_mem_drop (hrest ▸ mem_cons_self))
    have hsummed : total ((levels.drop first).take (grouped+1))=add level next := by
      rw [take_add,drop_drop,←hi,hrest,total_append,htotal]
      cases hadd : add level next with
      | none | some => simp [hadd]
    have hlength : ((levels.drop first).take (grouped+1)).length=grouped+1 := by
      rw [length_take,length_drop]
      omega
    have hbefore : i*m < (out+1)*levels.length := by zify; linarith
    rw [mapToFewer,show m-out=m-(out+1)+1 by omega,range'_succ,mapM_cons]
    cases hadd : add level next with
    | none =>
      have hnone : total (share m levels out)=none := by
        rw [share,Nat.div_eq_of_lt_le hfirst hbelow]
        refine total_take_none ?_ (hsummed.trans hadd)
        have hpast : i+1≤((out+1)*levels.length+m-1)/m := (Nat.le_div_iff_mul_le hm).mpr (by omega)
        omega
      rw [band,hnone]
      rfl
    | some sum =>
      rw [hadd] at hsummed
      dsimp only [Option.bind_eq_bind,Option.bind_some]
      split
      next hclose =>
        have hgone : (out+1)*levels.length≤(i+1)*m := by zify; linarith
        have hshare : share m levels out=(levels.drop first).take (grouped+1) := by
          refine share_eq hfirst hbelow ?_ ?_
          · rwa [←Nat.add_assoc,←hi]
          · rw [←Nat.add_assoc,←hi]
            omega
        have hband : band m levels out=some (out,sum.tdiv (grouped+1 : ℕ)) := by
          rw [band,hshare,hsummed,hlength]
          rfl
        rw [hband]
        split
        next hwithin =>
          have hmiddle : (out+1)*levels.length < (i+1)*m := by zify; linarith
          have hgroup : total ((levels.drop i).take 1)=some next := by
            rw [hrest]
            exact total_cons hint []
          rw [ih (i+1) i (out+1) 1 _ next hdrop rfl (by omega) hmiddle (by push_cast; linarith) (by omega)
            (by omega) hgroup]
          rfl
        next hreached =>
          have hend : (out+1)*levels.length=(i+1)*m := by zify; linarith
          rw [ih (i+1) (i+1) (out+1) 0 _ 0 hdrop rfl (by omega) (by rw [Nat.succ_mul (i+1)]; omega)
            (by push_cast; linarith) (by omega) (by omega) rfl]
          rfl
      next hopen =>
        rw [ih (i+1) first out (grouped+1) _ sum hdrop (by omega) hfirst hbelow (by push_cast; linarith) (by omega)
          (by omega) hsummed,show m-out=m-(out+1)+1 by omega,range'_succ,mapM_cons]
        rfl

/-- Each target has its band's share, or nothing is mapped. -/
theorem mapEqualizerBands_eq {β : Type} {equalizerBandValues : List β} {bandLevelMap : β → Option Int32}
    (hne : sourceLevels equalizerBandValues bandLevelMap≠[]) (hm : 0 < m) :
    mapEqualizerBands equalizerBandValues m bandLevelMap=
      (range m).mapM (band m (sourceLevels equalizerBandValues bandLevelMap)) := by
  have hints : ∀ level∈sourceLevels equalizerBandValues bandLevelMap,IsInt level := by
    intro level hlevel
    obtain ⟨x,-,rfl⟩ := mem_map.mp hlevel
    exact ⟨x.toBitVec.le_toInt,x.toBitVec.toInt_lt⟩
  have hn : 0 < (sourceLevels equalizerBandValues bandLevelMap).length := length_pos_iff.mpr hne
  rw [mapEqualizerBands,if_neg hne,range_eq_range']
  split
  next hle =>
    exact mapToMore_eq hints hn hle m 0 0 m (zero_add m) (by push_cast; ring) (by omega) le_rfl
  next hgreater =>
    exact mapToFewer_eq hints (by omega) hm _ 0 0 0 0 _ 0 rfl rfl (by omega) (by omega) (by push_cast; ring) (by omega)
      le_rfl rfl

theorem foldlM_add_iff {level sum : ℤ} (h : IsInt level) :
    levels.foldlM add level=some sum ↔ level+levels.sum=sum ∧ ∀ k,IsInt (level+(levels.take k).sum) := by
  induction levels generalizing level with
  | nil => simp [h]
  | cons next levels ih =>
    rw [foldlM_cons,sum_cons,add,←add_assoc]
    by_cases hsum : IsInt (level+next)
    · rw [if_pos hsum]
      refine (ih hsum).trans (and_congr_right fun _ => ⟨fun hall k => ?_,fun hall k => ?_⟩)
      · cases k with
        | zero => simpa using h
        | succ k => simpa [add_assoc] using hall k
      · simpa [add_assoc] using hall (k+1)
    · rw [if_neg hsum]
      refine ⟨nofun,fun hall => (hsum ?_).elim⟩
      simpa using hall.2 1

theorem mapM_eq_some_iff {α β : Type} {f : α → Option β} {l : List α} {l' : List β} :
    l.mapM f=some l' ↔ l.map f=l'.map some := by
  induction l generalizing l' with
  | nil => cases l' with
    | nil | cons => simp
  | cons a l ih =>
    rw [mapM_cons]
    cases l' with
    | nil => cases f a with
      | none | some => cases l.mapM f with
        | none | some => simp
    | cons b l' => simp [←ih,Option.bind_eq_some_iff]

theorem share_ne_nil (hn : 0 < levels.length) (hi : i < m) : share m levels i≠[] := by
  have hm : 0 < m := by omega
  have hfirst : i*levels.length/m < levels.length :=
    Nat.div_lt_of_lt_mul (Nat.mul_lt_mul_of_pos_right hi hn)
  have hround : i*levels.length/m*m ≤ i*levels.length := Nat.div_mul_le_self _ _
  have hpast : i*levels.length/m+1≤((i+1)*levels.length+m-1)/m :=
    (Nat.le_div_iff_mul_le hm).mpr (by rw [Nat.succ_mul,Nat.succ_mul]; omega)
  have hlength : 0 < (share m levels i).length := by
    rw [share,length_take,length_drop]
    omega
  exact length_pos_iff.mp hlength

theorem mean_between {low high : ℤ} (hne : levels≠[]) (h : ∀ level∈levels,low≤level ∧ level≤high) :
    low≤levels.sum.tdiv levels.length ∧ levels.sum.tdiv levels.length≤high := by
  have hpos : (0 : ℤ) < levels.length := Int.natCast_pos.mpr (length_pos_iff.mpr hne)
  have hlow := card_nsmul_le_sum levels low fun level hlevel => (h level hlevel).1
  have hhigh := sum_le_card_nsmul levels high fun level hlevel => (h level hlevel).2
  rw [nsmul_eq_mul] at hlow hhigh
  have hleft := Int.tdiv_le_tdiv hpos hlow
  have hright := Int.tdiv_le_tdiv hpos hhigh
  rw [Int.mul_tdiv_cancel_left _ hpos.ne'] at hleft hright
  exact ⟨hleft,hright⟩

/-- Each target is called back once, in order and within the bounds of the source levels, which are kept if
there are as many. -/
structure Mapped (m : ℕ) (levels : List ℤ) (calls : List (ℕ × ℤ)) : Prop where
  once : calls.map Prod.fst=range m
  between : ∀ low high,(∀ level∈levels,low≤level ∧ level≤high) → ∀ call∈calls,low≤call.2 ∧ call.2≤high
  unchanged : levels.length=m → calls.map Prod.snd=levels

/-- The sums of a target's source levels fit into an integer. -/
def Fits (m : ℕ) (levels : List ℤ) : Prop := ∀ i < m,∀ part∈(share m levels i).inits,IsInt part.sum

/-- The target bands get the means of their shares where no sum overflows. -/
theorem mapped_iff {β : Type} {equalizerBandValues : List β} {m : ℕ} {bandLevelMap : β → Option Int32}
    (hne : sourceLevels equalizerBandValues bandLevelMap≠[]) (hm : 0 < m) :
    (∃ calls,mapEqualizerBands equalizerBandValues m bandLevelMap=some calls ∧
      Mapped m (sourceLevels equalizerBandValues bandLevelMap) calls) ↔
    Fits m (sourceLevels equalizerBandValues bandLevelMap) := by
  rw [mapEqualizerBands_eq hne hm]
  generalize sourceLevels equalizerBandValues bandLevelMap=levels at hne
  have hn : 0 < levels.length := length_pos_iff.mpr hne
  constructor
  · rintro ⟨calls,hcalls,-⟩ i hi
    have hmem : band m levels i∈calls.map some := by
      rw [←mapM_eq_some_iff.mp hcalls]
      exact mem_map_of_mem (mem_range.mpr hi)
    obtain ⟨call,-,hcall⟩ := mem_map.mp hmem
    obtain ⟨sum,hsum,-⟩ := Option.map_eq_some_iff.mp hcall.symm
    have hall := ((foldlM_add_iff (by decide)).mp hsum).2
    intro part hpart
    rw [prefix_iff_eq_take.mp ((mem_inits _ _).mp hpart)]
    simpa using hall part.length
  · intro hfits
    let mean (i : ℕ) : ℕ × ℤ := (i,(share m levels i).sum.tdiv (share m levels i).length)
    have hband : ∀ i∈range m,band m levels i=some (mean i) := by
      intro i hi
      have htotal : total (share m levels i)=some (share m levels i).sum :=
        (foldlM_add_iff (by decide)).mpr ⟨zero_add _,fun k => by
          simpa using hfits i (mem_range.mp hi) _ ((mem_inits _ _).mpr ( take_prefix k _))⟩
      rw [band,htotal]
      rfl
    refine ⟨(range m).map mean,mapM_eq_some_iff.mpr ?_,?_,?_,?_⟩
    · rw [map_map]
      exact map_congr_left hband
    · rw [map_map]
      exact map_id _
    · intro low high hlevels call hcall
      obtain ⟨i,hi,rfl⟩ := mem_map.mp hcall
      refine mean_between (share_ne_nil hn (mem_range.mp hi)) fun level hlevel => hlevels level ?_
      exact mem_of_mem_drop (mem_of_mem_take hlevel)
    · rintro rfl
      refine ext_getElem (by simp) fun i hi hi' => ?_
      have hsucc : (i+1)*levels.length=i*levels.length+levels.length := Nat.succ_mul _ _
      have hshare : share levels.length levels i=[levels[i]] := by
        rw [share_eq (o := i) (k := 1) le_rfl (by omega) le_rfl (by omega),drop_eq_getElem_cons hi']
        rfl
      simp [mean,hshare]

/-- A source level for each of three bands, of both signs. -/
def threeLevels : ℕ → Option Int32
  | 0 => some (-7)
  | 1 => some 6
  | 2 => some 1
  | _ => none

/-- Three bands are mapped to two targets. -/
theorem mapped_iff_three : ∃ calls,mapEqualizerBands [0,1,2] 2 threeLevels=some calls ∧
    Mapped 2 (sourceLevels [0,1,2] threeLevels) calls :=
  (mapped_iff (by decide) (by decide)).mpr (by unfold Fits; decide)

/-- Two levels that are as high as an integer can be do not give one. -/
theorem sum_of_two_undefined : ¬∃ calls,mapEqualizerBands [0,1] 1 (fun _ => some 2147483647)=some calls ∧
    Mapped 1 (sourceLevels [0,1] fun _ => some 2147483647) calls := by
  rintro ⟨calls,hcalls,-⟩
  have hnone : mapEqualizerBands [0,1] 1 (fun _ => some 2147483647)=none := by decide
  rw [hnone] at hcalls
  nomatch hcalls

end AlexaClientSDK.EqualizerLinearBandMapper
