import AlexaClientSDK.MimeResponseSink
import AlexaClientSDK.Substitutions

/-!
# The media initialization section

`ContentDecrypter` rewrites the media initialization section of an encrypted playlist: `enca` becomes `mp4a`. The window
of four bytes is bounded by `size - 4`, an unsigned difference.
-/

namespace AlexaClientSDK.ContentDecrypter

open MimeResponseSink (WriteStatus)
open Option List Substitutions

abbrev ByteVector := List UInt8

def enca : ByteVector := [101,110,99,97]

def mp4a : ByteVector := [109,112,52,97]

/-- The number of values of a `size_t`. -/
def SIZE_VALUES : ℕ := 18446744073709551616

/-- `size - 4` on `size_t`, which wraps round below four bytes. -/
def windowBound (size : ℕ) : ℕ := if size<4 then SIZE_VALUES-(4-size) else size-4

/-- Compare bytes with the expected ones, up to the first that differs. `none` is a read behind the last byte.
-/
def readsAs : ByteVector → ByteVector → Option Bool
  | [],_ => some true
  | _::_,[] => none
  | e::expected,c::rest => if e=c then readsAs expected rest else some false

/-- From index `i` on, with the bytes from there. -/
def rewriteFrom (size i : ℕ) (bytes : ByteVector) : Option ByteVector :=
  match bytes with
  | [] => some []
  | c::rest =>
    (if i<windowBound size then readsAs enca (c::rest) else some false).bind fun found =>
      -- `i += 3` leaves the bytes that were replaced, `i++` follows in both branches
      if found then (rewriteFrom size (i+4) (rest.drop 3)).map (mp4a ++ ·)
      else (rewriteFrom size (i+1) rest).map (c :: ·)
termination_by bytes.length
decreasing_by
  · simp only [length_drop,length_cons]
    omega
  · simp only [length_cons]
    omega

/-- What `writeToStream` meets at the head of its loop. -/
inductive Turn
  | shuttingDown
  /-- `AttachmentWriter::write` takes so many of them, and sets the status. -/
  | write (bytesWritten : ℕ) (writeStatus : WriteStatus)

/-- What a call of `writeToStream` has done so far. -/
structure Written where
  bytes : ByteVector
  /-- What the call returned, when it returned. -/
  result : Option Bool

def writeLoop (content : ByteVector) (totalBytesWritten : ℕ) : List Turn → Written
  | [] => ⟨[],if totalBytesWritten<content.length then none else some true⟩
  | turn::turns =>
    if totalBytesWritten<content.length then
      match turn with
      | .shuttingDown => ⟨[],some true⟩
      | .write bytesWritten writeStatus =>
        let taken := (content.drop totalBytesWritten).take bytesWritten
        match writeStatus with
        -- `break` leaves the `switch` only, so that a closed writer is written to again
        | .CLOSED | .TIMEDOUT | .OK =>
          let later := writeLoop content (totalBytesWritten+taken.length) turns
          ⟨taken++later.bytes,later.result⟩
        | .ERROR_BYTES_LESS_THAN_WORD_SIZE | .ERROR_INTERNAL | .OK_BUFFER_FULL => ⟨taken,some false⟩
    else ⟨[],some true⟩

/-- `ContentDecrypter::writeToStream`. The writer may be null. -/
def writeToStream (content : ByteVector) : Option (List Turn) → Written
  | none => ⟨[],some false⟩
  | some turns => writeLoop content 0 turns

/-- `writeMediaInitSection`: `m_mediaInitSection` and what was written of it. `none` is a read out of bounds. -/
def writeMediaInitSection (mis : ByteVector) (streamWriter : Option (List Turn)) : Option (ByteVector × Written) :=
  (rewriteFrom mis.length 0 mis).map fun mediaInitSection =>
    (mediaInitSection,writeToStream mediaInitSection streamWriter)

section

theorem readsAs_eq_some {expected bytes : ByteVector} (hlen : expected.length≤bytes.length) :
    readsAs expected bytes=some (decide (expected <+: bytes)) := by
  induction expected generalizing bytes with
  | nil => simp [readsAs]
  | cons e expected ih =>
    cases bytes with
    | nil => exact absurd hlen (by simp)
    | cons c =>
      simp only [readsAs,cons_prefix_cons]
      by_cases heq : e=c
      · rw [if_pos heq,ih (by simpa using hlen)]
        simp [heq]
      · rw [if_neg heq]
        simp [heq]

/-- It is left exactly where it begins as expected. -/
theorem readsAs_short {expected bytes : ByteVector} (hlen : bytes.length<expected.length) :
    readsAs expected bytes=if bytes <+: expected then none else some false := by
  induction expected generalizing bytes with
  | nil => exact absurd hlen (by simp)
  | cons e expected ih =>
    cases bytes with
    | nil => simp [readsAs]
    | cons c =>
      simp only [readsAs,cons_prefix_cons]
      by_cases heq : e=c
      · rw [if_pos heq,ih (by simpa using hlen)]
        simp [heq]
      · rw [if_neg heq]
        simp [Ne.symm heq]

end

section

/-- A beginning of what is left, or all of it when it ends undisturbed. -/
theorem writeLoop_spec (content : ByteVector) (total : ℕ) (turns : List Turn) :
    (writeLoop content total turns).bytes <+: content.drop total ∧
      (.shuttingDown∉turns → (writeLoop content total turns).result=some true →
        (writeLoop content total turns).bytes=content.drop total) := by
  have hdone : ¬total<content.length → []=content.drop total := fun h =>
    (drop_eq_nil_of_le (by omega)).symm
  induction turns generalizing total with
  | nil =>
    refine ⟨ nil_prefix,fun _ hresult => ?_⟩
    by_cases hlt : total<content.length
    · rw [writeLoop,if_pos hlt] at hresult
      exact absurd hresult (by simp)
    · exact hdone hlt
  | cons turn turns ih =>
    have hsplit : ∀ n,(content.drop total).take n++content.drop (total+((content.drop total).take n).length) =
        content.drop total := fun n => by
      rw [←drop_drop,length_take,take_eq_take_min (i := n)]
      exact take_append_drop _ _
    unfold writeLoop
    split
    · split
      · exact ⟨ nil_prefix,fun hno => absurd mem_cons_self hno⟩
      · next n status =>
        have hlater := ih (total+((content.drop total).take n).length) fun h => (drop_eq_nil_of_le (by omega)).symm
        have hgoes : ∀ later : Written,later.bytes <+: content.drop (total+((content.drop total).take n).length) →
            (content.drop total).take n++later.bytes <+: content.drop total := fun later h => by
          conv_rhs => rw [←hsplit n]
          exact (prefix_append_right_inj _).mpr h
        split
        all_goals first
        | exact ⟨ take_prefix _ _,fun _ h => absurd h (by simp)⟩
        | refine ⟨hgoes _ hlater.1,fun hno hresult => ?_⟩
          dsimp only
          rw [hlater.2 (fun hmem => hno (mem_cons_of_mem _ hmem)) hresult,hsplit n]
    · next hlt => exact ⟨ nil_prefix,fun _ _ => hdone hlt⟩

end

section

theorem borderless_enca : Borderless enca := by
  intro k hpos hlt
  have hlen : enca.length=4 := rfl
  have hcases : k=1 ∨ k=2 ∨ k=3 := by omega
  rcases hcases with rfl|rfl|rfl <;> decide

/-- An occurrence at the end lies behind one in front. -/
theorem suffix_enca_append {tail : ByteVector} (hne : tail≠[]) : enca <:+ enca++tail ↔ enca <:+ tail := by
  constructor
  · rintro ⟨front,heq⟩
    have hlen : front.length=tail.length := by
      have htotal := congrArg List.length heq
      rw [length_append,length_append] at htotal
      omega
    have hocc : Occurs enca (enca++tail) tail.length := by
      unfold Occurs
      rw [←heq,←hlen,drop_left]
    rcases Nat.lt_or_ge tail.length enca.length with hlt|hge
    · exact absurd hocc (not_occurs_within borderless_enca (length_pos_iff.mpr hne) hlt)
    · exact suffix_of_suffix_length_le ⟨front,heq⟩ (suffix_append _ _) hge
  · intro h
    exact h.trans (suffix_append _ _)

variable {bytes rest : ByteVector} {c : UInt8}

/-- It is not the first byte of an `enca` at the end. -/
theorem suffix_enca_cons (hno : ¬enca <+: c::rest) : enca <:+ c::rest ↔ enca <:+ rest := by
  rw [suffix_cons_iff]
  exact or_iff_right fun heq => hno (heq ▸ prefix_rfl)

variable {size i : ℕ}

/-- The first byte is copied where no `enca` was found. -/
theorem rewriteFrom_copies (h : i<windowBound size → readsAs enca (c::rest)=some false) :
    rewriteFrom size i (c::rest)=(rewriteFrom size (i+1) rest).map (c :: ·) := by
  rw [rewriteFrom]
  by_cases hi : i<windowBound size
  · rw [if_pos hi,h hi]
    rfl
  · rw [if_neg hi]
    rfl

/-- Where the window no longer fits, the bytes are copied. -/
theorem rewriteFrom_tail (bytes : ByteVector) (hi : windowBound size ≤ i) : rewriteFrom size i bytes=some bytes := by
  induction bytes generalizing i with
  | nil => rw [rewriteFrom]
  | cons c rest ih =>
    rw [rewriteFrom_copies fun hlt => absurd hlt (by omega),ih (by omega)]
    rfl

/-- Four bytes and less are rewritten by a copy unless they are `enca`. -/
theorem substituted_tail (hlen : bytes.length≤4) : Substituted enca mp4a bytes bytes ↔ ¬enca <:+ bytes := by
  have hfour : enca.length=4 := rfl
  constructor
  · intro h hsuffix
    have heq : enca=bytes := hsuffix.eq_of_length (by have := hsuffix.length_le; omega)
    subst heq
    have hfirst := h.replaced 0 0 prefix_rfl (by decide)
    exact absurd hfirst (by decide)
  · intro hno
    refine substituted_self fun i hocc => hno ?_
    have hle := hocc.le_length
    obtain rfl : i=0 := by omega
    have heq : enca=bytes := List.IsPrefix.eq_of_length hocc (by omega)
    exact heq ▸ suffix_rfl

/-- Every `enca` is replaced but one at the very end, with no read outside. -/
theorem rewriteFrom_long (hsize : 4 ≤ size) (hi : i+bytes.length=size) :
    ∃ out,rewriteFrom size i bytes=some out ∧ (Substituted enca mp4a bytes out ↔ ¬enca <:+ bytes) := by
  have hbound : windowBound size=size-4 := if_neg (by omega)
  have hfour : enca.length=4 := rfl
  induction hn : bytes.length using Nat.strong_induction_on generalizing i bytes with
  | _ n ih =>
    rcases Nat.lt_or_ge i (windowBound size) with hlt|hge
    · cases bytes with
      | nil => exact absurd hi (by rw [length_nil]; omega)
      | cons c rest =>
        have hreads : readsAs enca (c::rest)=some (decide (enca <+: c::rest)) := readsAs_eq_some (by omega)
        by_cases hocc : enca <+: c::rest
        · rw [decide_eq_true hocc] at hreads
          obtain ⟨tail,heq⟩ := hocc
          have hdrop : rest.drop 3=tail := by
            have h := congrArg (List.drop 4) heq
            exact h.symm
          have hlen := congrArg List.length heq
          rw [length_append] at hlen
          have htail : tail≠[] := by
            rintro rfl
            rw [length_nil] at hlen
            omega
          obtain ⟨out,hout,hiff⟩ := ih tail.length (by omega) (i := i+4) (by omega) rfl
          refine ⟨mp4a++out,?_,?_⟩
          · rw [rewriteFrom,if_pos hlt,hreads,bind_some,if_pos rfl,hdrop,hout]
            rfl
          · rw [←heq,substituted_append borderless_enca (show mp4a.length=enca.length from rfl),
              suffix_enca_append htail,←hiff]
            simp
        · rw [decide_eq_false hocc] at hreads
          rw [length_cons] at hi hn
          obtain ⟨out,hout,hiff⟩ := ih rest.length (by omega) (i := i+1) (by omega) rfl
          refine ⟨c::out,by rw [rewriteFrom_copies fun _ => hreads,hout]; rfl,?_⟩
          rw [substituted_cons hocc,suffix_enca_cons hocc,←hiff]
          simp
    · exact ⟨bytes,rewriteFrom_tail bytes hge,substituted_tail (by omega)⟩

/-- The bytes end with a beginning of `enca`. -/
def EndsInside (bytes : ByteVector) : Prop := ∃ n,0<n ∧ n<4 ∧ enca.take n <:+ bytes

/-- Bytes that are no beginning of `enca` end with one behind the first of them. -/
theorem endsInside_cons (hno : ¬c::rest <+: enca) : EndsInside (c::rest) ↔ EndsInside rest := by
  constructor
  · rintro ⟨n,hpos,hlt,hsuffix⟩
    rcases suffix_cons_iff.mp hsuffix with heq|hsuffix
    · exact absurd (heq ▸ take_prefix n enca) hno
    · exact ⟨n,hpos,hlt,hsuffix⟩
  · rintro ⟨n,hpos,hlt,hsuffix⟩
    exact ⟨n,hpos,hlt,hsuffix.trans (suffix_cons _ _)⟩

/-- It does not end, and reads behind a beginning of `enca` at the end. -/
theorem rewriteFrom_short (hsize : size<4) (hi : i+bytes.length=size) :
    (EndsInside bytes → rewriteFrom size i bytes=none) ∧ (¬EndsInside bytes → rewriteFrom size i bytes=some bytes) := by
  have hfour : enca.length=4 := rfl
  have hbound : size<windowBound size := by
    unfold windowBound SIZE_VALUES
    rw [if_pos hsize]
    omega
  induction bytes generalizing i with
  | nil =>
    refine ⟨?_,fun _ => by rw [rewriteFrom]⟩
    rintro ⟨n,hpos,hlt,hsuffix⟩
    have hle := hsuffix.length_le
    rw [length_take,length_nil] at hle
    omega
  | cons c rest ih =>
    have hreads : readsAs enca (c::rest)=if c::rest <+: enca then none else some false :=
      readsAs_short (by omega)
    by_cases hocc : c::rest <+: enca
    · rw [if_pos hocc] at hreads
      refine ⟨fun _ => ?_,fun hno => absurd ?_ hno⟩
      · rw [rewriteFrom,if_pos (by omega),hreads]
        rfl
      · refine ⟨(c::rest).length,by simp,by omega,?_⟩
        rw [←prefix_iff_eq_take.mp hocc]
    · rw [if_neg hocc] at hreads
      rw [length_cons] at hi
      have hrest := ih (i := i+1) (by omega)
      rw [rewriteFrom_copies fun _ => hreads,endsInside_cons hocc]
      exact ⟨fun h => by rw [hrest.1 h]; rfl,fun h => by rw [hrest.2 h]; rfl⟩

end

/-- Nothing is read out of bounds; `enca` is replaced wherever it stands, and nothing else; the writer gets the
result from the front, all of it if it keeps answering. -/
def Rewrites (mis : ByteVector) : Prop :=
  ∀ streamWriter,∃ mediaInitSection written,writeMediaInitSection mis streamWriter=some (mediaInitSection,written) ∧
    Substituted enca mp4a mis mediaInitSection ∧ written.bytes <+: mediaInitSection ∧
    ∀ turns,streamWriter=some turns → .shuttingDown∉turns → written.result=some true → written.bytes=mediaInitSection

theorem writeToStream_spec (content : ByteVector) (streamWriter : Option (List Turn)) :
    (writeToStream content streamWriter).bytes <+: content ∧ ∀ turns,streamWriter=some turns → .shuttingDown∉turns →
        (writeToStream content streamWriter).result=some true → (writeToStream content streamWriter).bytes=content := by
  cases streamWriter with
  | none => exact ⟨ nil_prefix,fun turns h => absurd h (some_ne_none turns).symm⟩
  | some turns =>
    have hspec := writeLoop_spec content 0 turns
    rw [drop_zero] at hspec
    refine ⟨hspec.1,fun turns' heq hno hresult => ?_⟩
    obtain rfl := some.inj heq
    exact hspec.2 hno hresult

/-- The bytes are rewritten when the loop replaces every `enca`. -/
theorem rewrites_iff (mis : ByteVector) :
    Rewrites mis ↔ ∃ out,rewriteFrom mis.length 0 mis=some out ∧ Substituted enca mp4a mis out := by
  unfold Rewrites writeMediaInitSection
  constructor
  · intro h
    obtain ⟨mediaInitSection,written,heq,hsub,-⟩ := h none
    obtain ⟨out,hout,hpair⟩ := map_eq_some_iff.mp heq
    obtain rfl : out=mediaInitSection := congrArg Prod.fst hpair
    exact ⟨out,hout,hsub⟩
  · rintro ⟨out,hout,hsub⟩ streamWriter
    rw [hout]
    exact ⟨out,_,rfl,hsub,writeToStream_spec out streamWriter⟩

/-- It is rewritten, and nothing is read outside, exactly when it does not end with `enca` and, below four
bytes, not with a beginning of it either. -/
theorem writeMediaInitSection_rewrites_iff (mis : ByteVector) :
    Rewrites mis ↔ ¬enca <:+ mis ∧ (mis.length<4 → ¬EndsInside mis) := by
  have hfour : enca.length=4 := rfl
  rw [rewrites_iff]
  rcases Nat.lt_or_ge mis.length 4 with hlt|hge
  · have hnot : ¬enca <:+ mis := fun h => absurd h.length_le (by omega)
    obtain ⟨hinside,hcopy⟩ := rewriteFrom_short hlt (Nat.zero_add mis.length)
    constructor
    · rintro ⟨out,hout,-⟩
      refine ⟨hnot,fun _ hends => ?_⟩
      rw [hinside hends] at hout
      exact some_ne_none out hout.symm
    · rintro ⟨-,hends⟩
      exact ⟨mis,hcopy (hends hlt),(substituted_tail (Nat.le_of_lt hlt)).mpr hnot⟩
  · obtain ⟨out,hout,hiff⟩ := rewriteFrom_long hge (Nat.zero_add mis.length)
    constructor
    · rintro ⟨out',hout',hsub⟩
      rw [hout] at hout'
      obtain rfl := some.inj hout'
      exact ⟨hiff.mp hsub,fun hlt => absurd hlt (by omega)⟩
    · rintro ⟨hno,-⟩
      exact ⟨out,hout,hiff.mpr hno⟩

/-- Just `enca` is written as it is, and behind just `e` a byte is read. -/
theorem enca_at_the_end_kept :
    ¬Rewrites enca ∧ writeMediaInitSection enca (some [.write 4 .OK])=some (enca,⟨enca,some true⟩) ∧
      writeMediaInitSection [101] none=none := by
  have hcopy : rewriteFrom enca.length 0 enca=some enca := rewriteFrom_tail enca (Nat.le_refl 0)
  refine ⟨fun h => ?_,?_,?_⟩
  · obtain ⟨out,hout,hsub⟩ := (rewrites_iff enca).mp h
    rw [hcopy] at hout
    obtain rfl := some.inj hout
    exact (substituted_tail (show enca.length≤4 from Nat.le_refl 4)).mp hsub suffix_rfl
  · unfold writeMediaInitSection
    rw [hcopy]
    rfl
  · unfold writeMediaInitSection
    rw [rewriteFrom]
    rfl

end AlexaClientSDK.ContentDecrypter
