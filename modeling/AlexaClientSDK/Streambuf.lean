import Mathlib.Algebra.Group.Int.Defs
import AlexaClientSDK.LabelledRuns

/-!
# A stream buffer over an array

Seeks move the get position before they look whether it is in the array, and stay there where they fail; a putback is
compared with the last byte of the array instead of the one before the position.
-/

namespace AlexaClientSDK

open LabelledRuns

/-- The array, and the get position as an offset. -/
structure Streambuf where
  data : List UInt8
  gptr : ℤ

namespace Streambuf

inductive SeekDir
  | beg
  | cur
  | end
  | other

def length (s : Streambuf) : ℤ := s.data.length

section

variable (s : Streambuf)

/-- The byte at an address; outside of the array there is none to be read. -/
def byteAt (offset : ℤ) : Option UInt8 := if 0≤offset then s.data[offset.toNat]? else none

/-- An offset that is passed on as an `int`. -/
def int (off : ℤ) : ℤ := (off+2^31)%2^32-2^31

def eof : ℤ := -1

/-- Where a seek puts the get position. -/
def target (off : ℤ) : SeekDir → ℤ
  | .beg => off
  | .cur => s.gptr+int off
  | .end => s.length+off
  | .other => s.gptr

def seekoff (off : ℤ) (way : SeekDir) : ℤ × Streambuf :=
  match way with
  | .other => (-1,s)
  | way =>
    let moved : Streambuf := {s with gptr := s.target off way}
    if moved.gptr≥s.length ∨ moved.gptr<0 then (-1,moved) else (moved.gptr,moved)

def underflow : Option ℤ :=
  if s.gptr=s.length then some eof else (s.byteAt s.gptr).map fun byte => (byte.toNat : ℤ)

/-- `charToInt` is the promotion of a `char`. -/
def pbackfail (charToInt : UInt8 → ℤ) (s : Streambuf) (ch : ℤ) : Option (ℤ × Streambuf) :=
  if s.gptr≤0 ∨ s.gptr>s.length then some (eof,s)
  else if ch=eof then some (ch,{s with gptr := s.gptr-1})
  else (s.byteAt (s.length-1)).map fun last =>
    if ch≠charToInt last then (eof,s) else (ch,{s with gptr := s.gptr-1})

/-- The calls, with those of `streambuf` that lead to the overridden ones. -/
inductive Call
  | seekoff (off : ℤ) (way : SeekDir)
  | seekpos (sp : ℤ)
  | sgetc
  | sbumpc
  | sputbackc (c : UInt8)

/-- Unless bytes outside of the array are read. -/
def call (charToInt : UInt8 → ℤ) (s : Streambuf) : Call → Option (ℤ × Streambuf)
  | .seekoff off way => some (s.seekoff off way)
  | .seekpos sp => some (s.seekoff sp .beg)
  | .sgetc => s.underflow.map fun byte => (byte,s)
  | .sbumpc => s.underflow.map fun byte => (byte,if byte=eof then s else {s with gptr := s.gptr+1})
  | .sputbackc c =>
    if s.gptr>0 then
      (s.byteAt (s.gptr-1)).bind fun before =>
        if before=c then some (c.toNat,{s with gptr := s.gptr-1}) else s.pbackfail charToInt c.toNat
    else s.pbackfail charToInt c.toNat

def Inside : Prop := 0 ≤ s.gptr ∧ s.gptr ≤ s.length

/-- What is promised of an answer. -/
def Answers (answer : ℤ) (next : Streambuf) : Call → Prop
  | .seekoff _ _ | .seekpos _ => answer=-1 → next=s
  | .sgetc | .sbumpc => answer=eof ∨ ∃ byte,s.byteAt s.gptr=some byte ∧ answer=byte.toNat
  | .sputbackc c => answer≠eof ↔ 0 < s.gptr ∧ s.byteAt (s.gptr-1)=some c

end

section

variable (charToInt : UInt8 → ℤ)

/-- No read outside, an answer as promised, the position inside. -/
def Obeys (s : Streambuf) (c : Call) : Prop :=
  ∃ answer next,s.call charToInt c=some (answer,next) ∧ next.Inside ∧ s.Answers answer next c

/-- A seek stays inside, and nothing else is put back. -/
def Sound (s : Streambuf) : Call → Prop
  | .seekoff off way => s.target off way=s.gptr ∨ 0 ≤ s.target off way ∧ s.target off way < s.length
  | .seekpos sp => sp=s.gptr ∨ 0 ≤ sp ∧ sp < s.length
  | .sputbackc c => 0 < s.gptr → s.byteAt (s.gptr-1)≠some c →
      ∀ last,s.byteAt (s.length-1)=some last → (c.toNat : ℤ)≠charToInt last
  | .sgetc | .sbumpc => True

def Step (s : Streambuf) (c : Call) (t : Streambuf) : Prop :=
  ∃ answer,s.call charToInt c=some (answer,t)

end

/-- A new buffer stands at the beginning of its array. -/
def create (data : List UInt8) : Streambuf := ⟨data,0⟩

variable {charToInt : UInt8 → ℤ} {s t : Streambuf}

end Streambuf

end AlexaClientSDK
