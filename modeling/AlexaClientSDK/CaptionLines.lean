import AlexaClientSDK.Marks
import AlexaClientSDK.StringUtils
import Mathlib.Data.List.Sort

/-!
# Caption lines

A `CaptionLine` is a text with styles, each in force from the index of a `char` on. Lines are merged into one, and a line
is split at an index of its text, where the second part loses the white space in front.
-/

namespace AlexaClientSDK.CaptionLines

open Marks StringUtils

/-- The number of values of a `size_t`. -/
def SIZE_VALUES : ℕ := 18446744073709551616

structure Style where
  bold : Bool := false
  italic : Bool := false
  underline : Bool := false
deriving DecidableEq

structure TextStyle where
  charIndex : ℕ := 0
  activeStyle : Style := {}

structure CaptionLine where
  text : Text := []
  styles : List TextStyle := []

structure CaptionFrame where
  sourceId : ℕ
  duration : ℤ
  delay : ℤ
  captionLines : List CaptionLine

/-- A style with its index raised, on `size_t`. -/
def TextStyle.advance (indexOffset : ℕ) (style : TextStyle) : TextStyle :=
  {style with charIndex := (style.charIndex+indexOffset)%SIZE_VALUES}

def mergeLoop (result : CaptionLine) (indexOffset : ℕ) : List CaptionLine → CaptionLine
  | [] => result
  | line::captionLines =>
    mergeLoop ⟨result.text++line.text,result.styles++line.styles.map (TextStyle.advance indexOffset)⟩
      -- the length of this line alone
      line.text.length captionLines

def merge (captionLines : List CaptionLine) : CaptionLine :=
  match captionLines with
  | [] => {}
  | front::_ =>
    match front.styles with
    | [] => mergeLoop ⟨[],[{}]⟩ 0 captionLines
    | first::_ => mergeLoop ⟨[],if first.charIndex≠0 then [{}] else []⟩ 0 captionLines

/-- A style of the second line, with its index counted from the new beginning. -/
def TextStyle.retreat (indexOffset : ℕ) (style : TextStyle) : TextStyle :=
  {style with charIndex := if style.charIndex < indexOffset then 0 else style.charIndex-indexOffset}

/-- The last style of the first line, unless the second line has one for its beginning. `none` is `back()` of an
empty vector. -/
def carryOver (lineOne lineTwo : List TextStyle) : Option (List TextStyle) :=
  match lineTwo with
  | [] => lineOne.getLast?.map fun last => [{last with charIndex := 0}]
  | first::_ =>
    if first.charIndex≠0 then lineOne.getLast?.map fun last => {last with charIndex := 0}::lineTwo
    else some lineTwo

/-- Styles of one index are left in the order of the list. -/
def sortStyles (styles : List TextStyle) : List TextStyle := styles.insertionSort fun l r => l.charIndex≤r.charIndex

/-- `whitespaceCount`: what `ltrim` takes away. -/
def whitespaceCount (text : Text) : ℕ := text.length-(ltrim text).length

/-- Of the second line. A sum that a `size_t` cannot hold is not formed. -/
def indexOffset (index whitespaceCount : ℕ) : ℕ :=
  if SIZE_VALUES-1-whitespaceCount < index then 0 else index+whitespaceCount

def CaptionLine.splitAtTextIndex (line : CaptionLine) (index : ℕ) : Option (List CaptionLine) :=
  if line.text.length < index then some [line]
  else
    let lineOneText := line.text.take index
    let lineTwoText := ltrim (line.text.drop index)
    match line.styles with
    | [] => some [⟨lineOneText,[]⟩,⟨lineTwoText,[]⟩]
    | _::_ =>
      let styles := sortStyles line.styles
      let appliedStyleIndex := before TextStyle.charIndex styles index
      let indexOffset := indexOffset index (whitespaceCount (line.text.drop index))
      let lineOneStyles := styles.take appliedStyleIndex
      let lineTwoStyles := (styles.drop appliedStyleIndex).map (TextStyle.retreat indexOffset)
      (carryOver lineOneStyles lineTwoStyles).map fun lineTwoStyles =>
        [⟨lineOneText,lineOneStyles⟩,⟨lineTwoText,lineTwoStyles⟩]

/-- The last of the list whose index is at or before the `char`. -/
def CaptionLine.effectiveStyle (line : CaptionLine) (index : ℕ) : Option Style :=
  (inForce TextStyle.charIndex line.styles index).map TextStyle.activeStyle

end AlexaClientSDK.CaptionLines
