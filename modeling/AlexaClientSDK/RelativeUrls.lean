import AlexaClientSDK.M3UParser

/-!
# Relative URLs

A relative URL takes the place of what stands behind the last slash of the path of its base, or of the whole path where
it begins with a slash. A slash in the parameters counts as well.
-/

namespace AlexaClientSDK.M3UParser

open StringUtils

/-- An absolute URL, cut into its parts. -/
structure BaseURL where
  scheme : Text
  authority : Text
  path : Text
  parameters : Text
  scheme_plain : ':' ∉ scheme
  authority_plain : '/' ∉ authority ∧ '?' ∉ authority
  path_plain : '?' ∉ path
  path_begins : path=[] ∨ ∃ rest,path= '/'::rest
  parameters_begin : parameters=[] ∨ ∃ rest,parameters= '?'::rest

namespace BaseURL

variable (base : BaseURL) (relativePath : Text)

def site : Text := base.scheme++URL_END_SCHEME_PATTERN++base.authority

def text : Text := base.scheme++(URL_END_SCHEME_PATTERN++(base.authority++(base.path++base.parameters)))

/-- The path up to its last slash. -/
def directory : Text := (base.path.reverse.dropWhile (· ≠ '/')).reverse

def resolved : Text :=
  base.site++(if relativePath.head? = some '/' then relativePath else base.directory++relativePath)

variable {base relativePath}

theorem find?_scheme {scheme : Text} (hplain : ':' ∉ scheme) (rest : Text) :
    find? URL_END_SCHEME_PATTERN (scheme++(URL_END_SCHEME_PATTERN++rest))=some (scheme,rest) := by
  induction scheme with
  | nil => rfl
  | cons c scheme ih =>
    obtain ⟨hc,hscheme⟩ := not_or.mp (fun h => hplain (List.mem_cons.mpr h))
    have hnot : ¬URL_END_SCHEME_PATTERN.isPrefixOf (c::(scheme++(URL_END_SCHEME_PATTERN++rest)))=true := by
      intro hbegins
      have hfirst := (Bool.and_eq_true_iff.mp hbegins).1
      exact hc (beq_iff_eq.mp hfirst)
    rw [List.cons_append,find?,if_neg hnot,ih hscheme]
    rfl

theorem takeWhile_plain {c : Char} {plain : Text} (hplain : c ∉ plain) (rest : Text) :
    (plain++rest).takeWhile (· ≠ c)=plain++rest.takeWhile (· ≠ c) :=
  List.takeWhile_append_of_pos fun _ hx => decide_eq_true fun heq => hplain (heq ▸ hx)

theorem stripped_eq (base : BaseURL) :
    (base.authority++(base.path++base.parameters)).takeWhile (· ≠ '?')=base.authority++base.path := by
  rw [takeWhile_plain base.authority_plain.2,takeWhile_plain base.path_plain]
  rcases base.parameters_begin with hnone|⟨rest,hrest⟩
  · rw [hnone,List.takeWhile_nil,List.append_nil]
  · rw [hrest,List.takeWhile_cons_of_neg (by decide),List.append_nil]

theorem directory_behind (hslash : '/' ∈ base.path) :
    ((base.authority++base.path).reverse.dropWhile (· ≠ '/')).reverse=base.authority++base.directory := by
  have hfound : (base.path.reverse.dropWhile (· ≠ '/')).isEmpty=false := by
    rw [List.isEmpty_eq_false_iff,ne_eq,List.dropWhile_eq_nil_iff]
    exact fun hall => by simpa using hall '/' (List.mem_reverse.mpr hslash)
  rw [List.reverse_append,List.dropWhile_append,hfound,if_neg Bool.false_ne_true,directory,
    List.reverse_append,List.reverse_reverse]

variable (base)

/-- What is given, with the slash of the parameters that is taken for a path's. -/
theorem getAbsoluteURLFromRelativePathToURL_text (hne : relativePath≠[]) :
    getAbsoluteURLFromRelativePathToURL base.text relativePath=if base.path≠[] then some (base.resolved relativePath)
      else if relativePath.head? = some '/' ∧ '/' ∈ base.parameters then
        some (base.site++base.parameters.takeWhile (· ≠ '/')++relativePath)
      else none := by
  obtain ⟨c,rest,rfl⟩ := List.exists_cons_of_ne_nil hne
  have hplain := base.authority_plain.1
  unfold getAbsoluteURLFromRelativePathToURL text
  rw [find?_scheme base.scheme_plain,Option.bind_some]
  dsimp only
  have hhead : (c::rest).head?=some '/' ↔ c= '/' := by simp
  rw [stripped_eq,takeWhile_plain hplain,resolved,site]
  simp only [hhead,List.mem_append,hplain,false_or]
  rcases base.path_begins with hnone|⟨path,hpath⟩
  · rw [hnone]
    by_cases hbegins : c= '/'
    · simp [hbegins]
    · simp [hbegins]
  · have hslash : '/' ∈ base.path := hpath ▸ List.mem_cons_self
    rw [directory_behind hslash,if_pos (List.ne_nil_of_mem hslash)]
    by_cases hbegins : c= '/'
    · simp [hbegins,hpath]
    · simp [hbegins,hslash]

/-- It fails exactly without a slash to take for a path's, and is right exactly where the base has a path. -/
theorem relative_resolved_iff (base : BaseURL) {relativePath : Text} (hne : relativePath≠[]) :
    (getAbsoluteURLFromRelativePathToURL base.text relativePath=none ↔
      base.path=[] ∧ (relativePath.head? = some '/' → '/' ∉ base.parameters)) ∧
    ∀ url,getAbsoluteURLFromRelativePathToURL base.text relativePath=some url →
      (url=base.resolved relativePath ↔ base.path≠[]) := by
  rw [getAbsoluteURLFromRelativePathToURL_text base hne]
  by_cases hpath : base.path=[]
  · rw [if_neg (not_not_intro hpath)]
    by_cases hslash : relativePath.head? = some '/' ∧ '/' ∈ base.parameters
    · -- the slash of the parameters is taken for that of a path
      obtain ⟨rest,rfl⟩ := List.head?_eq_some_iff.mp hslash.1
      obtain ⟨parameters,hparameters⟩ := base.parameters_begin.resolve_left fun h => by simp [h] at hslash
      have hmem : '/' ∈ parameters := by simpa [hparameters] using hslash.2
      simp [hpath,hparameters,resolved,hmem]
    · rw [if_neg hslash]
      exact ⟨iff_of_true rfl ⟨hpath,not_and.mp hslash⟩,nofun⟩
  · simp [hpath,eq_comm]

/-- A slash in the parameters does not matter to a base with a path. -/
def playlist : BaseURL where
  scheme := "http".toList
  authority := "a".toList
  path := "/b/c".toList
  parameters := "?d=/".toList
  scheme_plain := by decide
  authority_plain := by decide
  path_plain := by decide
  path_begins := .inr ⟨_,rfl⟩
  parameters_begin := .inr ⟨_,rfl⟩

/-- An entry beside a playlist. -/
theorem relative_resolved_iff_playlist : "http://a/b/e".toList=playlist.resolved "e".toList ↔ playlist.path≠[] :=
  (relative_resolved_iff playlist (by decide)).2 _ (by decide)

end BaseURL

end AlexaClientSDK.M3UParser
