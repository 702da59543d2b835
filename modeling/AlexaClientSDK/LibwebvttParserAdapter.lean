import AlexaClientSDK.CaptionSplit
import Mathlib.Data.List.AList

/-!
# Cues

`LibwebvttParserAdapter` makes a caption frame of every cue that libwebvtt parses: it collects the text and the styles of
the cue's nodes, and cuts the text into the lines of the frame.
-/

namespace AlexaClientSDK.LibwebvttParserAdapter

open CaptionLines StringUtils

/-- The kinds of an inner node in `webvtt_node_kind`. -/
inductive NodeKind
  | CLASS
  | ITALIC
  | BOLD
  | UNDERLINE
  | RUBY
  | RUBY_TEXT
  | VOICE
  | LANG
  | HEAD_NODE
deriving DecidableEq

inductive Node
  /-- `WEBVTT_TEXT`, with the text as a C string. -/
  | text (text : Text)
  | timeStamp
  | empty
  | internal (kind : NodeKind) (children : List Node)

/-- Set the flag of an italic, bold or underline node. -/
def setStyle (kind : NodeKind) (value : Bool) (style : Style) : Style :=
  match kind with
  | .ITALIC => {style with italic := value}
  | .BOLD => {style with bold := value}
  | .UNDERLINE => {style with underline := value}
  | _ => style

/-- The styles behind those of its children. `none` is `back()` of an empty vector. -/
def closeNode (kind : NodeKind) (start : ℕ) (styles : List TextStyle) (built : Text × List TextStyle) :
    Option (Text × List TextStyle) :=
  styles.getLast?.bind fun styleStart => built.2.getLast?.map fun styleEnd =>
    (built.1,built.2++[⟨start,setStyle kind true styleStart.activeStyle⟩,
      ⟨built.1.length,setStyle kind false styleEnd.activeStyle⟩])

mutual

/-- `buildStyles`: the text collected so far and the styles, after a node. -/
def buildStyles (cleanText : Text) (styles : List TextStyle) : Node → Option (Text × List TextStyle)
  | .text childNodeText => some (cleanText++childNodeText,styles)
  | .internal .HEAD_NODE children => buildChildren cleanText styles children
  | .internal .ITALIC children =>
    (buildChildren cleanText styles children).bind (closeNode .ITALIC cleanText.length styles)
  | .internal .BOLD children =>
    (buildChildren cleanText styles children).bind (closeNode .BOLD cleanText.length styles)
  | .internal .UNDERLINE children =>
    (buildChildren cleanText styles children).bind (closeNode .UNDERLINE cleanText.length styles)
  -- an unsupported node, whose children are not visited
  | _ => some (cleanText,styles)

/-- The loop of `buildStyles` over the children of a node. -/
def buildChildren (cleanText : Text) (styles : List TextStyle) : List Node → Option (Text × List TextStyle)
  | [] => some (cleanText,styles)
  | child::children =>
    (buildStyles cleanText styles child).bind fun built => buildChildren built.1 built.2 children

end

/-- `webvtt_cue`, as far as it is used. -/
structure Cue where
  /-- `from`, a `webvtt_uint64`. -/
  startTime : ℕ
  /-- `until`, a `webvtt_uint64`. -/
  endTime : ℕ
  nodeHead : Option Node

structure Adapter where
  parseListener : Bool
  captionIdsToLastEndTime : AList fun _ : ℕ => ℤ

def milliseconds (count : ℤ) : ℤ := count.bmod SIZE_VALUES

def cueLine (cue : Cue) : Option CaptionLine :=
  match cue.nodeHead with
  | none => some ⟨[],[]⟩
  | some head => (buildStyles [] [{}] head).map fun built => ⟨built.1,built.2⟩

/-- The loop over the lengths of the lines, with what is left. `none` is out of range. -/
def cutLines (tempLine : CaptionLine) : List Text → Option (List CaptionLine)
  | [] => some []
  | textLine::textLines =>
    (tempLine.splitAtTextIndex textLine.length).bind fun split =>
      match split with
      | [] => none
      | [one,two] => (cutLines two textLines).map (one :: ·)
      | one::_ => (cutLines tempLine textLines).map (one :: ·)

/-- `onCueParsed`: the state and the frame for the listener. -/
def Adapter.onCueParsed (s : Adapter) (captionId : ℕ) (cue : Cue) : Option (Adapter × Option CaptionFrame) :=
  (cueLine cue).bind fun tempLine =>
    let delayMs :=
      match s.captionIdsToLastEndTime.lookup captionId with
      | none => 0
      | some lastEndTime => milliseconds cue.startTime-lastEndTime
    let s' := {s with
      captionIdsToLastEndTime := s.captionIdsToLastEndTime.insert captionId (milliseconds cue.endTime)}
    if s.parseListener then
      (cutLines tempLine (getLines tempLine.text)).map fun captionLines =>
        (s',some ⟨captionId,milliseconds (cue.endTime-cue.startTime),delayMs,captionLines⟩)
    else some (s',none)

end AlexaClientSDK.LibwebvttParserAdapter
