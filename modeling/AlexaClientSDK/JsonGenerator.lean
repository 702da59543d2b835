import Mathlib.Data.Int.Notation
import Mathlib.Data.Nat.Notation

/-!
# The generator of JSON texts

`JsonGenerator` constructs its writer without a stream, so that the first token is put through a null pointer. The writer
flushes its stream where the root object ends, which clears it: a stream alone would not help. Where a null pointer is
used or an assertion of the writer fails there is no answer; a text is the list of its tokens.
-/

namespace AlexaClientSDK.JsonGenerator

open List Option

/-- The values that are written at once; a double that is not finite has no text. -/
inductive Value
  | string (value : String)
  | int64 (value : ℤ)
  | uint64 (value : ℕ)
  | bool (value : Bool)
  | double (text : Option String)
  | rawValue (json : String)

/-- The type that `Prefix` is told. -/
def Value.isString : Value → Bool
  | .string _ | .rawValue _ => true
  | _ => false

def Value.hasText : Value → Bool
  | .double none => false
  | _ => true

inductive Token
  | startObject
  | endObject
  | startArray
  | endArray
  | comma
  | colon
  | value (value : Value)

mutual

/-- The token lists that are JSON values; raw values are taken to be. -/
inductive JsonText : List Token → Prop
  | value (value : Value) : JsonText [.value value]
  | object {members : List Token} (h : Members members) : JsonText (.startObject::members++[.endObject])
  | array {elements : List Token} (h : Elements elements) : JsonText (.startArray::elements++[.endArray])

inductive Members : List Token → Prop
  | nil : Members []
  | cons (key : String) {text members : List Token} (h : JsonText text) (hmembers : Members members) :
    Members (.value (.string key)::.colon::text++(if members.isEmpty then [] else .comma::members))

inductive Elements : List Token → Prop
  | nil : Elements []
  | cons {text elements : List Token} (h : JsonText text) (helements : Elements elements) :
    Elements (text++(if elements.isEmpty then [] else .comma::elements))

end

/-- The streams that a writer may be constructed with. -/
inductive Stream
  | m_buffer

structure Level where
  inArray : Bool
  valueCount : ℕ

/-- The stream is null unless the writer was given one. -/
structure Writer where
  os_ : Option Stream
  level_stack_ : List Level
  hasRoot_ : Bool

structure Generator where
  m_buffer : List Token
  m_writer : Writer

namespace Generator

section

variable (g : Generator)

/-- `os_->Put`, which a null stream does not survive. -/
def put (token : Token) : Option Generator := g.m_writer.os_.map fun _ => {g with m_buffer := g.m_buffer++[token]}

/-- `os_->Flush`, which clears the buffer. -/
def flush : Option Generator := g.m_writer.os_.map fun _ => {g with m_buffer := []}

def isComplete : Bool := g.m_writer.hasRoot_ && g.m_writer.level_stack_.isEmpty

def setLevels (levels : List Level) : Generator := {g with m_writer := {g.m_writer with level_stack_ := levels}}

/-- `Prefix`; the name of a member is a string. -/
def separate (isString : Bool) : Option Generator :=
  match g.m_writer.level_stack_ with
  | [] => if g.m_writer.hasRoot_ then none else some {g with m_writer := {g.m_writer with hasRoot_ := true}}
  | level::levels =>
    let isName := !level.inArray && level.valueCount%2=0
    let separated := if level.valueCount=0 then some g else g.put (if level.inArray || isName then .comma else .colon)
    separated.bind fun g =>
      if isName && !isString then none
      else some (g.setLevels ({level with valueCount := level.valueCount+1}::levels))

/-- `EndValue`. -/
def endValue : Option Generator := if g.m_writer.level_stack_.isEmpty then g.flush else some g

end

def write (value : Value) (g : Generator) : Option Generator :=
  (g.separate value.isString).bind fun g => (if value.hasText then g.put (.value value) else some g).bind endValue

/-- `StartObject` and `StartArray`. -/
def startLevel (inArray : Bool) (g : Generator) : Option Generator :=
  (g.separate false).bind fun g =>
    (g.setLevels (⟨inArray,0⟩::g.m_writer.level_stack_)).put (if inArray then .startArray else .startObject)

/-- `EndObject` and `EndArray`. -/
def endLevel (inArray : Bool) (g : Generator) : Option Generator :=
  match g.m_writer.level_stack_ with
  | level::levels =>
    if level.inArray≠inArray ∨ (!inArray && level.valueCount%2≠0) then none
    else ((g.setLevels levels).put (if inArray then .endArray else .endObject)).bind endValue
  | [] => none

/-- One thing after the other is written. -/
def writeAll : List (Generator → Option Generator) → Generator → Option Generator
  | [],g => some g
  | write::writes,g => (write g).bind (writeAll writes)

/-- Objects are ended as long as the writer is not complete; every one has its level. -/
def finalize : ℕ → Generator → Option Generator
  | 0,g => if g.isComplete then some g else none
  | left+1,g => if g.isComplete then some g else (g.endLevel false).bind (finalize left)

end Generator

open Generator

inductive Call
  | startObject (key : String)
  | finishObject
  | startArray (key : String)
  | startArrayElement
  | finishArrayElement
  | finishArray
  | addMember (key : String) (value : Value)
  /-- `addMember` with a pointer, which may be null. -/
  | addCString (key : String) (value : Option String)
  | addRawJsonMember (key json : String) (isValid : Bool)
  | addStringArray (key : String) (collection : List String)
  | addMembersArray (key : String) (collection : List String)
  | addCollectionOfStringArray (key : String) (collection : List (List String))

namespace Call

/-- An array of strings, or of raw values. -/
def array (kind : String → Value) (collection : List String) : List (Generator → Option Generator) :=
  startLevel true::collection.map (fun value => write (kind value))++[endLevel true]

def writes : Call → List (Generator → Option Generator)
  | .startObject key => [write (.string key),startLevel false]
  | .finishObject | .finishArrayElement => [endLevel false]
  | .startArray key => [write (.string key),startLevel true]
  | .startArrayElement => [startLevel false]
  | .finishArray => [endLevel true]
  | .addMember key value => [write (.string key),write value]
  | .addCString key value => [write (.string key),write (.string (value.getD ""))]
  | .addRawJsonMember key json _ => [write (.string key),write (.rawValue json)]
  | .addStringArray key collection => write (.string key)::array .string collection
  | .addMembersArray key collection => write (.string key)::array .rawValue collection
  | .addCollectionOfStringArray key collection =>
    write (.string key)::startLevel true::(collection.map (array .string)).flatten++[endLevel true]

/-- What is refused without the writer. -/
def refused : Call → Bool
  | .addCString _ value => value.isNone
  | .addRawJsonMember _ _ isValid => !isValid
  | _ => false

/-- The answer of the writer. -/
def answer : Call → Bool
  | .addMember _ value => value.hasText
  | _ => true

end Call

namespace Generator

/-- What the body of the constructor makes of a writer with this stream. -/
def construct (os_ : Option Stream) : Option Generator := startLevel false ⟨[],⟨os_,[],false⟩⟩

/-- `JsonGenerator()`, which initializes `m_writer()` without a stream. -/
def new : Option Generator := construct none

/-- `checkWriter`, and then the writer. -/
def call (g : Generator) (c : Call) : Option (Bool × Generator) :=
  if g.isComplete || c.refused then some (false,g) else (writeAll c.writes g).map fun g => (c.answer,g)

/-- Calls that all return true. -/
def calls : List Call → Generator → Option Generator
  | [],g => some g
  | c::cs,g => (g.call c).bind fun answer => if answer.1 then calls cs answer.2 else none

/-- `toString`, which ends what is open. -/
def toString (g : Generator) : Option (List Token × Generator) :=
  (finalize g.m_writer.level_stack_.length g).map fun g => (g.m_buffer,g)

/-- The calls return true, and `toString` returns a JSON text that none changes. -/
def Renders (created : Option Generator) (cs : List Call) : Prop :=
  ∃ g text finished,created.bind (calls cs)=some g ∧ g.toString=some (text,finished) ∧ JsonText text ∧
    ∀ c,finished.call c=some (false,finished)

/-- The root object was begun, and nothing is in the buffer behind its end. -/
structure Begun (g : Generator) : Prop where
  root : g.m_writer.hasRoot_=true
  cleared : g.m_writer.level_stack_=[] → g.m_buffer=[]

def Keeps (write : Generator → Option Generator) : Prop := ∀ g next,Begun g → write g=some next → Begun next

section

variable {g next : Generator}

theorem put_writer {token : Token} (h : g.put token=some next) : next.m_writer=g.m_writer := by
  obtain ⟨_,-,rfl⟩ := map_eq_some_iff.mp h
  rfl

/-- Where the root object ends the buffer is cleared. -/
theorem begun_endValue (hroot : g.m_writer.hasRoot_=true) (h : g.endValue=some next) : Begun next := by
  unfold endValue at h
  split at h
  · obtain ⟨_,-,rfl⟩ := map_eq_some_iff.mp h
    exact ⟨hroot,fun _ => rfl⟩
  next hlevels =>
    cases h
    exact ⟨hroot,fun hempty => (hlevels (isEmpty_iff.mpr hempty)).elim⟩

/-- A value behind the root belongs to a level that goes on. -/
theorem separate_inside {isString : Bool} (hroot : g.m_writer.hasRoot_=true) (h : g.separate isString=some next) :
    next.m_writer.hasRoot_=true ∧ next.m_writer.level_stack_≠[] := by
  unfold separate at h
  split at h
  · rw [if_pos hroot] at h
    cases h
  · obtain ⟨put,hput,h⟩ := bind_eq_some_iff.mp h
    have hroot' : put.m_writer.hasRoot_=true := by
      split at hput
      · cases hput
        exact hroot
      · rw [put_writer hput,hroot]
    split at h
    · cases h
    · cases h
      exact ⟨hroot',cons_ne_nil _ _⟩

end

theorem keeps_write (value : Value) : Keeps (write value) := by
  intro g next hbegun h
  obtain ⟨separated,hseparate,h⟩ := bind_eq_some_iff.mp h
  obtain ⟨put,hput,h⟩ := bind_eq_some_iff.mp h
  refine begun_endValue ?_ h
  have hroot := (separate_inside hbegun.root hseparate).1
  split at hput
  · rw [put_writer hput,hroot]
  · cases hput
    exact hroot

theorem keeps_startLevel (inArray : Bool) : Keeps (startLevel inArray) := by
  intro g next hbegun h
  obtain ⟨separated,hseparate,h⟩ := bind_eq_some_iff.mp h
  refine ⟨?_,fun hempty => ?_⟩
  · rw [put_writer h]
    exact (separate_inside hbegun.root hseparate).1
  · rw [put_writer h] at hempty
    cases hempty

theorem keeps_endLevel (inArray : Bool) : Keeps (endLevel inArray) := by
  intro g next hbegun h
  unfold endLevel at h
  split at h
  · split at h
    · cases h
    · obtain ⟨put,hput,h⟩ := bind_eq_some_iff.mp h
      refine begun_endValue ?_ h
      rw [put_writer hput]
      exact hbegun.root
  · cases h

theorem keeps_writeAll {writes : List (Generator → Option Generator)} (hwrites : ∀ write∈writes,Keeps write) :
    Keeps (writeAll writes) := by
  intro g next hbegun h
  induction writes generalizing g with
  | nil => exact some.inj h ▸ hbegun
  | cons write writes ih =>
    obtain ⟨written,hwritten,hrest⟩ := bind_eq_some_iff.mp h
    exact ih (fun other hmem => hwrites other (mem_cons_of_mem _ hmem)) written
      (hwrites write mem_cons_self g written hbegun hwritten) hrest

theorem keeps_finalize (left : ℕ) : Keeps (finalize left) := by
  intro g next hbegun h
  induction left generalizing g with
  | zero =>
    unfold finalize at h
    split at h
    · exact some.inj h ▸ hbegun
    · cases h
  | succ left ih =>
    unfold finalize at h
    split at h
    · exact some.inj h ▸ hbegun
    · obtain ⟨ended,hended,h⟩ := bind_eq_some_iff.mp h
      exact ih ended (keeps_endLevel false g ended hbegun hended) h

/-- A writer that has been finalized is complete. -/
theorem finalize_complete {left : ℕ} {g next : Generator} (h : finalize left g=some next) : next.isComplete=true := by
  induction left generalizing g with
  | zero =>
    unfold finalize at h
    split at h
    next hcomplete => exact some.inj h ▸ hcomplete
    · cases h
  | succ left ih =>
    unfold finalize at h
    split at h
    next hcomplete => exact some.inj h ▸ hcomplete
    · obtain ⟨ended,-,h⟩ := bind_eq_some_iff.mp h
      exact ih h

theorem keeps_array (kind : String → Value) (collection : List String) :
    ∀ write∈Call.array kind collection,Keeps write := by
  intro write hmem
  rcases mem_append.mp hmem with hmem|hmem
  · rcases mem_cons.mp hmem with rfl|hmem
    · exact keeps_startLevel true
    · obtain ⟨value,-,rfl⟩ := mem_map.mp hmem
      exact keeps_write _
  · obtain rfl := mem_singleton.mp hmem
    exact keeps_endLevel true

/-- Every call writes only what clears the buffer where the root ends. -/
theorem keeps_writes (c : Call) : ∀ write∈c.writes,Keeps write := by
  cases c with
  | addStringArray key collection | addMembersArray key collection =>
    exact forall_mem_cons.mpr ⟨keeps_write _,keeps_array _ _⟩
  | addCollectionOfStringArray key collection =>
    refine forall_mem_cons.mpr ⟨keeps_write _,?_⟩
    intro write hmem
    rcases mem_append.mp hmem with hmem|hmem
    · rcases mem_cons.mp hmem with rfl|hmem
      · exact keeps_startLevel true
      · obtain ⟨writes,hwrites,hmem⟩ := mem_flatten.mp hmem
        obtain ⟨strings,-,rfl⟩ := mem_map.mp hwrites
        exact keeps_array _ _ write hmem
    · obtain rfl := mem_singleton.mp hmem
      exact keeps_endLevel true
  | _ => simp [Call.writes,keeps_write,keeps_startLevel,keeps_endLevel]

theorem keeps_calls (cs : List Call) : Keeps (calls cs) := by
  intro g next hbegun hcalls
  induction cs generalizing g with
  | nil => exact some.inj hcalls ▸ hbegun
  | cons c cs ih =>
    obtain ⟨⟨answer,called⟩,hcall,hrest⟩ := bind_eq_some_iff.mp hcalls
    have hcalled : Begun called := by
      unfold call at hcall
      split at hcall
      · cases hcall
        exact hbegun
      · obtain ⟨written,hwritten,heq⟩ := map_eq_some_iff.mp hcall
        cases heq
        exact keeps_writeAll (keeps_writes c) g called hbegun hwritten
    split at hrest
    · exact ih called hcalled hrest
    · cases hrest

theorem not_jsonText_nil : ¬JsonText [] := fun h => nomatch h

/-- With the buffer as its stream the writer would clear the text as it ends the root object: no calls are rendered
with any stream. -/
theorem cleared_never_renders (os_ : Option Stream) (cs : List Call) : ¬Renders (construct os_) cs := by
  rintro ⟨g,text,finished,hcalls,htext,hjson,-⟩
  obtain ⟨first,hfirst,hcalls⟩ := bind_eq_some_iff.mp hcalls
  have hbegun : Begun first := by
    cases os_ with
    | none => cases hfirst
    | some stream =>
      cases hfirst
      exact ⟨rfl,fun hempty => (cons_ne_nil _ _ hempty).elim⟩
  obtain ⟨last,hlast,heq⟩ := map_eq_some_iff.mp htext
  cases heq
  have hcleared := (keeps_finalize _ g finished (keeps_calls cs first g hbegun hcalls) hlast).cleared
  have hcomplete := (Bool.and_eq_true_iff.mp (finalize_complete hlast)).2
  rw [hcleared (isEmpty_iff.mp hcomplete)] at hjson
  exact not_jsonText_nil hjson

end Generator

end AlexaClientSDK.JsonGenerator
