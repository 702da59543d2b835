import AlexaClientSDK.MediaSequences
import Mathlib.Data.List.Induction

/-!
# Initialisation vectors in bytes

`convertIVToByteArray` reads two characters for every byte. It looks at the length and the first two characters; where
the others are no hexadecimal digits, `sscanf` may leave a byte as it was.
-/

namespace AlexaClientSDK.ContentDecrypter

open StringUtils M3UParser

def AES_BLOCK_SIZE : ℕ := 16

def digitValue (c : Char) : Option ℕ := hexDigit c.toLower

/-- `sscanf` with `%2hhx`: the byte that it stores, if it stores any. -/
def scanByte (c d : Char) : Option ℕ :=
  if isspace c ∨ c= '+' then digitValue d
  else if c= '-' then (digitValue d).map fun value => (256-value)%256
  else if c= '0' ∧ d.toLower= 'x' then none
  else (digitValue c).map fun high => ((digitValue d).map (16*high + ·)).getD high

def scanBytes : Text → List (Option ℕ)
  | c::d::rest => scanByte c d::scanBytes rest
  | _ => []

/-- `ContentDecrypter::convertIVToByteArray`. -/
def convertIVToByteArray (hexIV : Text) : Option (List (Option ℕ)) :=
  if hexIV.length≠IV_HEX_STRING_LENGTH+2 then none
  else
    let trimmedHexIV :=
      if hexIV.take 2="0x".toList ∨ hexIV.take 2="0X".toList then hexIV.drop 2 else hexIV
    if trimmedHexIV.length≠IV_HEX_STRING_LENGTH then none else some (scanBytes trimmedHexIV)

/-- The number of which these are the bytes, the greatest first. -/
def bigEndian (bytes : List ℕ) : ℕ := bytes.foldl (fun value byte => value*256+byte) 0

theorem digitValue_lt {c : Char} {value : ℕ} (h : digitValue c=some value) : value<16 := (hexDigit_eq_some h).1

theorem digitValue_digitChar : ∀ value<16,digitValue (Nat.digitChar value)=some value := by decide

theorem controls : ∀ code<14,9≤code → digitValue (Char.ofNat code)=none := by decide

/-- Two hexadecimal digits are read as one byte. -/
theorem scanByte_of_digits {c d : Char} {high low : ℕ} (hhigh : digitValue c=some high) (hlow : digitValue d=some low) :
    scanByte c d=some (16*high+low) := by
  have hnot : ∀ other,digitValue other=none → c≠other := by
    rintro other hnone rfl
    cases hnone.symm.trans hhigh
  have hspace : isspace c=false := by
    rw [Bool.eq_false_iff]
    intro hspace
    rcases (Bool.or_eq_true _ _).mp hspace with hblank|hcontrol
    · exact hnot ' ' rfl (of_decide_eq_true hblank)
    · obtain ⟨hlow,hhigh⟩ := (Bool.and_eq_true _ _).mp hcontrol
      have hnone := controls c.toNat (Nat.lt_succ_of_le (of_decide_eq_true hhigh)) (of_decide_eq_true hlow)
      exact hnot _ hnone (Char.ofNat_toNat c).symm
  have hx : d.toLower≠ 'x' := by
    intro hx
    unfold digitValue at hlow
    rw [hx] at hlow
    cases hlow
  unfold scanByte
  rw [if_neg (by simp [hspace,hnot '+' rfl]),if_neg (hnot '-' rfl),if_neg (hx ·.2),hhigh,hlow]
  rfl

/-- The value that hexadecimal digits go on to write, small or capital. -/
def hexFrom (value : Option ℕ) (digits : Text) : Option ℕ :=
  digits.foldl (fun value c => value.bind fun number => (digitValue c).map (number*16 + ·)) value

theorem hexFrom_none (digits : Text) : hexFrom none digits=none := by
  induction digits with
  | nil => rfl
  | cons _ _ ih => exact ih

theorem hexFrom_cons {value number : ℕ} {c : Char} {digits : Text} (h : hexFrom (some value) (c::digits)=some number) :
    ∃ digit,digitValue c=some digit ∧ hexFrom (some (value*16+digit)) digits=some number := by
  change hexFrom ((digitValue c).map (value*16 + ·)) digits=some number at h
  cases hdigit : digitValue c with
  | none =>
    rw [hdigit,Option.map_none,hexFrom_none] at h
    cases h
  | some digit =>
    rw [hdigit] at h
    exact ⟨digit,rfl,h⟩

theorem hexFrom_isSome (value : ℕ) (digits : Text) :
    (hexFrom (some value) digits).isSome=true ↔ ∀ c∈digits,(digitValue c).isSome=true := by
  induction digits generalizing value with
  | nil => exact iff_of_true rfl nofun
  | cons c digits ih =>
    rw [List.forall_mem_cons]
    change (hexFrom ((digitValue c).map (value*16 + ·)) digits).isSome=true ↔ _
    cases digitValue c with
    | none => simp [hexFrom_none]
    | some digit => exact (ih _).trans (and_iff_right rfl).symm

theorem scanBytes_spec {count value number : ℕ} {digits : Text} (hlength : digits.length=2*count)
    (hvalue : hexFrom (some value) digits=some number) :
    ∃ bytes : List ℕ,scanBytes digits=bytes.map some ∧ bytes.length=count ∧ (∀ byte∈bytes,byte<256) ∧
      bytes.foldl (fun value byte => value*256+byte) value=number := by
  induction count generalizing digits value with
  | zero =>
    obtain rfl := List.length_eq_zero_iff.mp hlength
    exact ⟨[],rfl,rfl,nofun,Option.some.inj hvalue⟩
  | succ count ih =>
    match digits,hlength with
    | c::d::rest,hlength =>
      obtain ⟨high,hhigh,hrest⟩ := hexFrom_cons hvalue
      obtain ⟨low,hlow,htail⟩ := hexFrom_cons hrest
      obtain ⟨bytes,hbytes,hcount,hless,hfold⟩ := ih (by simpa [Nat.mul_add] using hlength) htail
      have hhigh' := digitValue_lt hhigh
      have hlow' := digitValue_lt hlow
      refine ⟨(16*high+low)::bytes,?_,congrArg (· + 1) hcount,List.forall_mem_cons.mpr ⟨by omega,hless⟩,?_⟩
      · rw [scanBytes,scanByte_of_digits hhigh hlow,hbytes,List.map_cons]
      · rw [List.foldl_cons,←hfold]
        congr 1
        omega

/-- `0x` and 32 hexadecimal digits that write the number. -/
def IsHexIV (hexIV : Text) (number : ℕ) : Prop :=
  ∃ x digits,hexIV= '0'::x::digits ∧ (x= 'x' ∨ x= 'X') ∧ digits.length=IV_HEX_STRING_LENGTH ∧
    hexFrom (some 0) digits=some number

/-- The result is sixteen bytes, all of them written, that are the number. -/
def Reads (hexIV : Text) (number : ℕ) : Prop :=
  ∃ bytes : List ℕ,convertIVToByteArray hexIV=some (bytes.map some) ∧ bytes.length=AES_BLOCK_SIZE ∧
    (∀ byte∈bytes,byte<256) ∧ bigEndian bytes=number

/-- Nothing but the length and the prefix is looked at. -/
theorem convertIVToByteArray_isSome (hexIV : Text) : (convertIVToByteArray hexIV).isSome=true ↔
    ∃ x digits,hexIV= '0'::x::digits ∧ (x= 'x' ∨ x= 'X') ∧ digits.length=IV_HEX_STRING_LENGTH := by
  rcases hexIV with _|⟨c,_|⟨x,digits⟩⟩
  · simp [convertIVToByteArray,IV_HEX_STRING_LENGTH]
  · simp [convertIVToByteArray,IV_HEX_STRING_LENGTH]
  · by_cases hbegins : c= '0' ∧ (x= 'x' ∨ x= 'X') <;> by_cases hlength : digits.length=32 <;>
      simp [convertIVToByteArray,←and_or_left,hbegins,hlength,IV_HEX_STRING_LENGTH]

theorem reads_of_isHexIV {hexIV : Text} {number : ℕ} (h : IsHexIV hexIV number) : Reads hexIV number := by
  obtain ⟨x,digits,rfl,hx,hlength,hvalue⟩ := h
  obtain ⟨bytes,hbytes,hcount,hless,hfold⟩ := scanBytes_spec (show digits.length=2*AES_BLOCK_SIZE from hlength) hvalue
  refine ⟨bytes,?_,hcount,hless,hfold⟩
  rcases hx with rfl|rfl <;> simp [convertIVToByteArray,hlength,hbytes]

theorem isHexIV_of_isImplicitIV {iv : String} {number : ℕ} (hiv : IsImplicitIV iv number) : IsHexIV iv.toList number := by
  obtain ⟨digits,rfl,hlength,hvalue⟩ := hiv
  refine ⟨'x',digits,String.toList_ofList,.inl rfl,hlength,?_⟩
  clear hlength
  induction digits using List.reverseRecOn generalizing number with
  | nil => exact hvalue
  | append_singleton digits c ih =>
    obtain ⟨high,low,hhigh,hlow,rfl⟩ := hexValue_concat hvalue
    obtain ⟨hlt,rfl⟩ := hexDigit_eq_some hlow
    rw [hexFrom,List.foldl_append]
    change hexFrom (hexFrom (some 0) digits) _=_
    rw [ih hhigh]
    exact congrArg (Option.map _) (digitValue_digitChar low hlt)

/-- The vector made of a media sequence number is read as the bytes of this number. -/
theorem convertIVToByteArray_to16ByteHexString {number : ℕ} (hnumber : number<INT_VALUES) :
    ∃ bytes : List ℕ,convertIVToByteArray (to16ByteHexString number)=some (bytes.map some) ∧
      bytes.length=AES_BLOCK_SIZE ∧ (∀ byte∈bytes,byte<256) ∧ bigEndian bytes=number := by
  have h := reads_of_isHexIV (isHexIV_of_isImplicitIV ((isImplicitIV_iff hnumber number).mpr rfl))
  rwa [String.toList_ofList] at h

/-- The initialization vector of the fifth segment. -/
theorem convertIVToByteArray_to16ByteHexString_five :
    ∃ bytes : List ℕ,convertIVToByteArray (to16ByteHexString 5)=some (bytes.map some) ∧
      bytes.length=AES_BLOCK_SIZE ∧ (∀ byte∈bytes,byte<256) ∧ bigEndian bytes=5 :=
  convertIVToByteArray_to16ByteHexString (by decide)

/-- What the codec is to do with a string. -/
structure Codec (hexIV : Text) : Prop where
  accepts : (convertIVToByteArray hexIV).isSome=true ↔ ∃ number,IsHexIV hexIV number
  reads : ∀ number,IsHexIV hexIV number → Reads hexIV number
  inverts : ∀ number<INT_VALUES,hexIV=to16ByteHexString number → Reads hexIV number

/-- Every string of the right length and beginning is accepted, whether or not it has digits. -/
theorem codec_iff (hexIV : Text) : Codec hexIV ↔ ∀ x digits,hexIV= '0'::x::digits → x= 'x' ∨ x= 'X' →
    digits.length=IV_HEX_STRING_LENGTH → ∀ c∈digits,(digitValue c).isSome=true := by
  constructor
  · rintro hcodec x digits rfl hx hlength
    obtain ⟨number,_,_,heq,-,-,hvalue⟩ :=
      hcodec.accepts.mp ((convertIVToByteArray_isSome _).mpr ⟨x,digits,rfl,hx,hlength⟩)
    cases heq
    exact (hexFrom_isSome 0 digits).mp (Option.isSome_of_eq_some hvalue)
  · intro h
    refine ⟨⟨fun hsome => ?_,?_⟩,fun _ => reads_of_isHexIV,?_⟩
    · obtain ⟨x,digits,heq,hx,hlength⟩ := (convertIVToByteArray_isSome hexIV).mp hsome
      obtain ⟨number,hnumber⟩ := Option.isSome_iff_exists.mp ((hexFrom_isSome 0 digits).mpr (h x digits heq hx hlength))
      exact ⟨number,x,digits,heq,hx,hlength,hnumber⟩
    · rintro ⟨_,x,digits,heq,hx,hlength,-⟩
      exact (convertIVToByteArray_isSome hexIV).mpr ⟨x,digits,heq,hx,hlength⟩
    · rintro number hnumber rfl
      have hencoded := isHexIV_of_isImplicitIV ((isImplicitIV_iff hnumber number).mpr rfl)
      rw [String.toList_ofList] at hencoded
      exact reads_of_isHexIV hencoded

/-- Letters that are no digits are accepted. -/
theorem letters_accepted : ¬∀ hexIV,Codec hexIV := by
  intro hall
  have hletters : hexFrom (some 0) (List.replicate IV_HEX_STRING_LENGTH 'g')=none := by decide
  obtain ⟨number,_,_,heq,-,-,hvalue⟩ := (hall ( '0':: 'x'::List.replicate IV_HEX_STRING_LENGTH 'g')).accepts.mp rfl
  cases heq
  cases hletters.symm.trans hvalue

end AlexaClientSDK.ContentDecrypter
