import Collate.Log.Event
import Collate.Number.Integer
import Collate.Text.Blank
import Collate.Text.Letter

namespace Collate.Log

structure FieldPattern where
  name : String
  value : Option String
deriving DecidableEq, Inhabited

/-- The greatest rank of the events that are written, and what events it is
about. -/
structure Directive where
  target : Option String
  span : Option String
  field : Option FieldPattern
  rank : Nat
deriving DecidableEq, Inhabited

namespace Directive

def rankOfWord? (word : String) : Option Nat :=
  match word.toLower with
  | "off" => some 0
  | "error" => some Level.error.rank
  | "warn" => some Level.warn.rank
  | "info" => some Level.info.rank
  | "debug" => some Level.debug.rank
  | "trace" => some Level.trace.rank
  | _ => (Number.unsigned64? word).filter fun rank => rank ≤ Level.trace.rank

private def rankBehind? (word : String) : Option Nat :=
  if word.isEmpty then some Level.trace.rank else rankOfWord? word

private def fieldOf (text : String) : FieldPattern :=
  match text.splitOn "=" with
  | name :: value :: _ => { name, value := some value }
  | _ => { name := text, value := none }

private inductive Part where
  | nothing
  | targetOrLevel (start : Nat)
  | span (start : Nat)
  | field (start : Nat)
  | afterField
  | afterSpan
  | level (start : Nat)

private structure Draft where
  part : Part
  target : Option String
  span : Option String
  field : Option FieldPattern

private def dropBytes? : List Char → Nat → Option (List Char)
  | characters, 0 => some characters
  | [], _ + 1 => none
  | character :: rest, count =>
      if character.utf8Size ≤ count then
        dropBytes? rest (count - character.utf8Size)
      else none

private def takeBytes? : List Char → Nat → Option (List Char)
  | _, 0 => some []
  | [], _ + 1 => none
  | character :: rest, count =>
      if character.utf8Size ≤ count then
        (takeBytes? rest (count - character.utf8Size)).map (character :: ·)
      else none

private def between? (text : List Char) (start stop : Nat) : Option String :=
  ((dropBytes? text start).bind fun rest => takeBytes? rest (stop - start)).map
    String.ofList

private def behind? (text : List Char) (start : Nat) : Option String :=
  (dropBytes? text start).map String.ofList

private def readOne? (text : List Char) (offset : Nat) (draft : Draft)
    (character : Char) :
    Option Draft :=
  match draft.part, character with
  | .nothing, '[' => some { draft with part := .span (offset + 1) }
  | .nothing, _ =>
      if character = '-' || character = ':' || character =
        '_' || Text.isLetter character then
        some { draft with part := .targetOrLevel offset }
      else none
  | .targetOrLevel start, '=' =>
      (between? text start offset).map fun target =>
        { draft with target := some target, part := .level (offset + 1) }
  | .targetOrLevel start, '[' =>
      (between? text start offset).map fun target =>
        { draft with target := some target, part := .span (offset + 1) }
  | .span start, ']' =>
      (between? text start offset).map fun span =>
        { draft with span := some span, part := .afterSpan }
  | .span start, '\x7b' =>
      (between? text start offset).map fun span =>
        { draft with
          span := if span.isEmpty then none else some span
          part := .field (offset + 1) }
  | .field start, '\x7d' => do
      let field ← between? text start offset
      if field.isEmpty then none
      else
        some { draft with field := some (fieldOf field), part := .afterField }
  | .afterField, ']' => some { draft with part := .afterSpan }
  | .afterSpan, '=' => some { draft with part := .level (offset + 1) }
  | .targetOrLevel _, _ => some draft
  | .span _, _ => some draft
  | .field _, _ => some draft
  | .level _, _ => some draft
  | _, _ => none

private def read? (text : List Char) :
    (offset : Nat) → Draft → List Char → Option Draft
  | _, draft, [] => some draft
  | offset, draft, character :: rest => do
      read? text (offset + character.utf8Size)
        (← readOne? text offset draft character) rest

/-- The directive at the end of its text. A level alone is for all targets, and
a target without a level has all of its events written. -/
private def finish? (text : List Char) (draft : Draft) : Option Directive :=
  let directive (rank : Nat) : Directive :=
    { target := draft.target, span := draft.span, field := draft.field, rank }
  match draft.part with
  | .targetOrLevel start => do
      let word ← behind? text start
      match rankOfWord? word with
      | some rank => some { directive rank with target := none }
      | none => some { directive Level.trace.rank with target := some word }
  | .level start => ((behind? text start).bind rankBehind?).map directive
  | .afterSpan => some (directive Level.trace.rank)
  | _ => none

/-- A directive from its text: a level, or a target, a span in brackets with a
field in braces, and an equals sign with a level. Where the parts begin and end
is found out without the blanks around the text, but they are counted off in the
text with the blanks: so a word with a blank is not a level. -/
def ofText? (text : String) : Option Directive := do
  let characters := text.toList
  let draft : Draft :=
    { part := .nothing, target := none, span := none, field := none }
  finish? characters (← read? characters 0 draft (Text.trim characters))

private def hasField (event : Event) (name : String) : Bool :=
  name = "message" || event.fields.any fun field => field.1 = name

def concerns (directive : Directive) (event : Event) : Bool :=
  directive.span.isNone && directive.target.all (fun start =>
    start.toList.isPrefixOf event.target.toList) && directive.field.all
      fun field => field.value.isNone && hasField event field.name

private def targetWeight (directive : Directive) : Nat :=
  match directive.target with
  | some start => start.utf8ByteSize + 1
  | none => 0

private def fieldText (directive : Directive) : String :=
  match directive.field with
  | some field => field.name
  | none => ""

/-- Whether the second of two directives for an event counts: it says more about
the target, or as much about it and no less about the field. -/
def givesWay (first second : Directive) : Bool :=
  first.targetWeight < second.targetWeight || (first.targetWeight =
    second.targetWeight && first.fieldText ≤ second.fieldText)

end Directive

end Collate.Log
