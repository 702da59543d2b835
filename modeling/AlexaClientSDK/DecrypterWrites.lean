import Mathlib.Algebra.Ring.Nat
import AlexaClientSDK.ContentDecrypter

/-!
# Writing the content to a stream

`writeToStream` writes until the content is written or the writer gives up. A writer that is closed makes it leave the
`switch` alone, and it writes again.
-/

namespace AlexaClientSDK.ContentDecrypter

open MimeResponseSink (WriteStatus)
open List

/-- Bytes are written only where the status is `OK`. -/
inductive WriteResult
  | ok (bytesWritten : ℕ)
  | refused (writeStatus : WriteStatus)

open WriteResult

def WriteResult.turn : WriteResult → Turn
  | .ok bytesWritten => .write bytesWritten .OK
  | .refused writeStatus => .write 0 writeStatus

def WriteResult.bytesWritten : WriteResult → ℕ
  | .ok bytesWritten => bytesWritten
  | .refused _ => 0

/-- The results that end the call with an error. -/
def WriteResult.givesUp : WriteResult → Bool
  | .refused .ERROR_BYTES_LESS_THAN_WORD_SIZE | .refused .ERROR_INTERNAL | .refused .OK_BUFFER_FULL => true
  | _ => false

def written (content : ByteVector) (results : List WriteResult) : Written :=
  writeToStream content (some (results.map turn))

variable {content : ByteVector} {results : List WriteResult}

theorem split_take (total n : ℕ) : (content.drop total).take n ++
    content.drop (total+((content.drop total).take n).length)=content.drop total := by
  rw [←drop_drop,length_take,take_eq_take_min (i := n)]
  exact take_append_drop _ _

/-- A call goes on as long as nothing has given up and bytes are left. -/
theorem result_eq_none_iff (total : ℕ) : (writeLoop content total (results.map turn)).result=none ↔
    (∀ result∈results,result.givesUp=false) ∧ total+(results.map bytesWritten).sum<content.length := by
  induction results generalizing total with
  | nil => simp [writeLoop]
  | cons result results ih =>
    rw [map_cons,map_cons,sum_cons,forall_mem_cons]
    unfold writeLoop
    split
    next hlt =>
      cases result with
      | ok n =>
        have hlength : ((content.drop total).take n).length=min n (content.length-total) := by
          rw [length_take,length_drop]
        refine (ih _).trans ?_
        rw [hlength]
        simp only [givesUp,bytesWritten,true_and]
        refine and_congr_right fun _ => ?_
        omega
      | refused status =>
        cases status with
        | CLOSED | TIMEDOUT | OK =>
          refine (ih _).trans ?_
          simp [givesUp,bytesWritten]
        | _ => simp [turn,givesUp]
    next hdone =>
      refine ⟨fun h => absurd h (Option.some_ne_none true),fun h => ?_⟩
      omega

/-- A call that fails has left bytes. -/
theorem bytes_ne_of_failed (total : ℕ) (h : (writeLoop content total (results.map turn)).result=some false) :
    (writeLoop content total (results.map turn)).bytes≠content.drop total := by
  induction results generalizing total with
  | nil =>
    rw [map_nil,writeLoop] at h
    split at h <;> cases h
  | cons result results ih =>
    rw [map_cons] at h ⊢
    unfold writeLoop at h ⊢
    split at h
    next hlt =>
      rw [if_pos hlt]
      have hleft : []≠content.drop total := by
        intro hnil
        have hlength := congrArg List.length hnil
        rw [length_drop,length_nil] at hlength
        omega
      cases result with
      | ok n =>
        intro heq
        refine ih _ h (append_cancel_left (heq.trans (split_take total n).symm))
      | refused status =>
        cases status with
        | CLOSED | TIMEDOUT | OK => exact ih _ h
        | _ => exact hleft
    · cases h

theorem le_of_succeeded (total : ℕ) (h : (writeLoop content total (results.map turn)).result=some true) :
    content.length≤total+(results.map bytesWritten).sum := by
  induction results generalizing total with
  | nil =>
    rw [map_nil,writeLoop] at h
    split at h
    · cases h
    next hdone => exact (not_lt.mp hdone).trans (Nat.le_add_right _ _)
  | cons result results ih =>
    rw [map_cons] at h
    rw [map_cons,sum_cons]
    unfold writeLoop at h
    split at h
    next hlt =>
      cases result with
      | ok n =>
        have hlater := ih _ h
        rw [length_take] at hlater
        exact hlater.trans (by simp only [bytesWritten]; omega)
      | refused status =>
        rw [bytesWritten,Nat.zero_add]
        cases status with
        | CLOSED | TIMEDOUT | OK => exact ih _ h
        | _ => cases h
    next hdone => omega

/-- Closed or failed is false; true exactly when all bytes are written. -/
structure Ends (content : ByteVector) (results : List WriteResult) : Prop where
  stops : ∀ before status after,results=before++.refused status::after → (written content before).result=none →
    status=.CLOSED ∨ status=.ERROR_BYTES_LESS_THAN_WORD_SIZE ∨ status=.ERROR_INTERNAL →
    (written content (before++[.refused status])).result=some false
  allWritten : ∀ answer,(written content results).result=some answer →
    (answer=true ↔ (written content results).bytes=content)

/-- Something has given up before or the bytes are written. -/
def ClosedLate (content : ByteVector) (results : List WriteResult) : Prop :=
  ∀ before after,results=before++.refused .CLOSED::after →
    (∃ result∈before,result.givesUp=true) ∨ content.length≤(before.map bytesWritten).sum

/-- The loop ends as it should unless the writer is closed before the content is written. -/
theorem ends_iff (content : ByteVector) (results : List WriteResult) :
    Ends content results ↔ ClosedLate content results := by
  have hnone (before : List WriteResult) : (written content before).result=none ↔
      (∀ result∈before,result.givesUp=false) ∧ (before.map bytesWritten).sum<content.length := by
    refine (result_eq_none_iff 0).trans ?_
    rw [Nat.zero_add]
  constructor
  · intro h before after heq
    by_contra hearly
    rw [not_or,not_exists,not_le] at hearly
    have hgoes : (∀ result∈before,result.givesUp=false) :=
      fun result hresult => Bool.eq_false_iff.mpr fun hgives => hearly.1 result ⟨hresult,hgives⟩
    have hstops := h.stops before _ after heq ((hnone before).mpr ⟨hgoes,hearly.2⟩) (.inl rfl)
    have hopen : (written content (before++[.refused .CLOSED])).result=none := by
      refine (hnone _).mpr ⟨?_,by simpa [bytesWritten] using hearly.2⟩
      exact forall_mem_append.mpr ⟨hgoes,forall_mem_singleton.mpr rfl⟩
    cases hopen.symm.trans hstops
  · intro hlate
    refine ⟨?_,?_⟩
    · intro before status after heq hopen hstatus
      obtain ⟨hgoes,hleft⟩ := (hnone before).mp hopen
      have hgives : (refused status).givesUp=true := by
        rcases hstatus with rfl | rfl | rfl
        · obtain ⟨result,hresult,hgives⟩ | hdone := hlate before after heq
          · cases hgives.symm.trans (hgoes result hresult)
          · omega
        · rfl
        · rfl
      have hsum : ((before++[refused status]).map bytesWritten).sum<content.length := by
        simpa [bytesWritten] using hleft
      cases hresult : (written content (before++[.refused status])).result with
      | none =>
        have hnot := ((hnone _).mp hresult).1 _ (mem_append_right _ (mem_singleton_self _))
        cases hgives.symm.trans hnot
      | some answer =>
        cases answer with
        | false => rfl
        | true =>
          have hle := le_of_succeeded 0 hresult
          omega
    · intro answer hanswer
      cases answer with
      | false =>
        have hne := bytes_ne_of_failed 0 hanswer
        exact ⟨nofun,fun heq => absurd heq hne⟩
      | true =>
        refine ⟨fun _ => ?_,fun _ => rfl⟩
        refine (writeToStream_spec content _).2 _ rfl (fun hmem => ?_) hanswer
        obtain ⟨result,-,hresult⟩ := mem_map.mp hmem
        cases result with
        | ok | refused => cases hresult

/-- A closed writer is written to again. -/
theorem closed_goes_on : ¬Ends [1] [.refused .CLOSED] := by
  intro h
  have hstops := h.stops [] .CLOSED [] rfl rfl (.inl rfl)
  cases hstops

end AlexaClientSDK.ContentDecrypter
