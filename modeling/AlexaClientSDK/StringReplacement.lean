import AlexaClientSDK.StringUtils
import AlexaClientSDK.Substitutions

/-!
# Replacing a part of a string

`replaceAllSubstring` edits the string that it searches, and goes on behind the text it has put in. An empty text to be
replaced is found again at every position, so that the loop never ends.
-/

namespace AlexaClientSDK.StringUtils

open Nat List Substitutions

variable {subject from_ to_ : Text}

/-- `std::string::find`, from `pos` on. `none` is `npos`. -/
def find (subject from_ : Text) (pos : ℕ) : Option ℕ :=
  (range (subject.length+1)).find? fun i => decide (pos ≤ i ∧ from_.isPrefixOf (subject.drop i))

/-- `std::string::replace`. -/
def replace (subject : Text) (pos length : ℕ) (to_ : Text) : Text :=
  subject.take pos++to_++subject.drop (pos+length)

/-- The loop of `replaceAllSubstring`, for so many turns. -/
def replaceLoop (from_ to_ : Text) : ℕ → Text → ℕ → Option Text
  | 0,_,_ => none
  | rounds+1,subject,pos =>
    match find subject from_ pos with
    | none => some subject
    | some found => replaceLoop from_ to_ rounds (replace subject found from_.length to_) (found+to_.length)

def replaceAllSubstring (rounds : ℕ) (str from_ to_ : Text) : Option Text := replaceLoop from_ to_ rounds str 0

theorem find_eq_some {pos found : ℕ} : find subject from_ pos=some found ↔
    (pos≤found ∧ Occurs from_ subject found) ∧ found ≤ subject.length ∧
      ∀ i,pos ≤ i → i<found → ¬Occurs from_ subject i := by
  unfold find Occurs
  rw [find?_range_eq_some]
  simp only [decide_eq_true_eq, isPrefixOf_iff_prefix,mem_range,Nat.lt_add_one_iff,Bool.not_eq_true',
    decide_eq_false_iff_not,not_and]
  exact and_congr_right fun _ => and_congr_right fun _ => forall_congr' fun _ =>
    ⟨fun h hle hlt => h hlt hle,fun h hlt hle => h hle hlt⟩

variable {pos : ℕ}

theorem find_eq_none : find subject from_ pos=none ↔ ∀ i ≤ subject.length,pos ≤ i → ¬Occurs from_ subject i := by
  unfold find Occurs
  rw [find?_range_eq_none]
  simp only [Nat.lt_add_one_iff,Bool.not_eq_true',decide_eq_false_iff_not, isPrefixOf_iff_prefix,not_and]

/-- An occurrence that is found is put in the place of what stood there. -/
theorem replace_append (to_ done front text : Text) :
    replace (done++(front++(from_++text))) (done.length+front.length) from_.length to_=done++front++to_++text := by
  unfold replace
  rw [take_length_add_append,Nat.add_assoc,drop_length_add_append,drop_length_add_append,drop_left,take_left]

/-- What was rewritten stays in front; the rest is rewritten by itself. -/
theorem replaceLoop_spec (to_ : Text) (hne : from_≠[]) (done rest : Text) :
    ∃ rounds out,replaceLoop from_ to_ rounds (done++rest) done.length=some (done++out) ∧
      Replaced from_ to_ rest out := by
  have hpos := length_pos_iff.mpr hne
  induction hn : rest.length using Nat.strong_induction_on generalizing done rest with
  | _ n ih =>
    cases hfind : find (done++rest) from_ done.length with
    | none =>
      refine ⟨1,rest,by rw [replaceLoop,hfind],.none fun i hocc => ?_⟩
      have hlen := hocc.le_length
      refine find_eq_none.mp hfind (done.length+i) ?_ (Nat.le_add_right _ _) ((occurs_append i).mpr hocc)
      rw [length_append]
      omega
    | some =>
      obtain ⟨⟨hle,hocc⟩,-,hfirst⟩ := find_eq_some.mp hfind
      obtain ⟨k,rfl⟩ := Nat.exists_eq_add_of_le hle
      obtain ⟨text,htext⟩ := (occurs_append k).mp hocc
      have hk := ((occurs_append k).mp hocc).le_length
      obtain ⟨front,rfl,rfl⟩ : ∃ front : Text,front.length=k ∧ rest=front++(from_++text) :=
        ⟨rest.take k,by rw [length_take]; omega,by rw [htext,take_append_drop]⟩
      rw [length_append,length_append] at hn
      obtain ⟨rounds,out,hloop,hout⟩ := ih text.length (by omega) (done++front++to_) text rfl
      refine ⟨rounds+1,front++(to_++out),?_,.first (fun i hi hocc' => ?_) hout⟩
      · rw [replaceLoop,hfind]
        dsimp only
        rw [replace_append]
        simpa only [length_append,append_assoc,Nat.add_assoc] using hloop
      · exact hfirst (done.length+i) (Nat.le_add_right _ _) (by omega) ((occurs_append i).mpr hocc')

/-- An empty text is found wherever the search begins. -/
theorem find_nil (hpos : pos ≤ subject.length) : find subject [] pos=some pos :=
  find_eq_some.mpr ⟨⟨le_refl _, nil_prefix⟩,hpos,fun _ hle hlt => absurd hlt (not_lt.mpr hle)⟩

theorem replaceLoop_nil (to_ : Text) (rounds : ℕ) (hpos : pos ≤ subject.length) :
    replaceLoop [] to_ rounds subject pos=none := by
  induction rounds generalizing subject pos with
  | zero => rfl
  | succ rounds ih =>
    rw [replaceLoop,find_nil hpos]
    refine ih ?_
    unfold replace
    simp only [length_append,length_take,length_drop]
    omega

/-- It ends, and the leftmost occurrences are replaced. -/
def ReplacesAll (str from_ to_ : Text) : Prop :=
  ∃ rounds out,replaceAllSubstring rounds str from_ to_=some out ∧ Replaced from_ to_ str out

/-- All occurrences are replaced if there is something to be replaced. -/
theorem replacesAll_iff (str from_ to_ : Text) : ReplacesAll str from_ to_ ↔ from_≠[] := by
  constructor
  · rintro ⟨rounds,out,hout,-⟩ rfl
    unfold replaceAllSubstring at hout
    rw [replaceLoop_nil to_ rounds (zero_le _)] at hout
    cases hout
  · exact fun hne => replaceLoop_spec to_ hne [] str

/-- The text put in may hold what is replaced: it is not searched again. -/
example : replaceAllSubstring 3 ['a','b','a'] ['a'] ['a','a']=some ['a','a','b','a','a'] := by decide

/-- An empty text to be replaced is found for ever, even in an empty string. -/
theorem empty_text_is_found_forever : ¬∀ str from_ to_,ReplacesAll str from_ to_ := by
  intro hall
  obtain ⟨rounds,out,hout,-⟩ := hall [] [] []
  cases (replaceLoop_nil [] rounds (le_refl 0)).symm.trans hout

end AlexaClientSDK.StringUtils
