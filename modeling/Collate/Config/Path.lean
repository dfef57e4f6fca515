import Collate.Config.Value
import Collate.Text.Character
import Collate.Text.Lowercase

namespace Collate.Config

/-- A step from a table to one of its fields, or from a list to one of its
items, where negative places count from the end. -/
inductive PathStep where
  | field (name : String)
  | item (place : Int)
deriving DecidableEq, Inhabited

structure Path where
  first : String
  rest : List PathStep
deriving DecidableEq, Inhabited

namespace Path

def isNameCharacter (character : Char) : Bool :=
  Text.isNameCharacter character || character = ' '

/-- A place between brackets, around which spaces and tabs may stand. Places are
integers of 64 bits. -/
private def place? (characters : List Char) : Option (Int × List Char) :=
  let (negative, digits) := match characters.dropWhile Text.isSpace with
    | '-' :: rest => (true, rest)
    | rest => (false, rest)
  match digits.takeWhile Char.isDigit,
    (digits.dropWhile Char.isDigit).dropWhile Text.isSpace with
  | written, ']' :: rest => do
      let value ← Number.natural? written
      let place : Int := if negative then -value else value
      if Number.leastSigned ≤ place && place < Number.signedLimit then
        some (place, rest)
      else none
  | _, _ => none

private def steps? : (fuel : Nat) → List Char → Option (List PathStep)
  | _, [] => some []
  | 0, _ => none
  | fuel + 1, '.' :: rest =>
      let name := rest.takeWhile isNameCharacter
      if name.isEmpty then none
      else
        (steps? fuel (rest.dropWhile isNameCharacter)).map fun steps =>
          .field (String.ofList name) :: steps
  | fuel + 1, '[' :: rest => do
      let (place, rest) ← place? rest
      let steps ← steps? fuel rest
      return .item place :: steps
  | _, _ => none

/-- The path that a text is. A text of another form is a single name. -/
def ofText (text : String) : Path :=
  let characters := text.toList
  let name := characters.takeWhile isNameCharacter
  let alone : Path := { first := text, rest := [] }
  if name.isEmpty then alone
  else
    match steps? characters.length (characters.dropWhile isNameCharacter) with
    | some rest => { first := String.ofList name, rest }
    | none => alone

end Path

namespace Value

def fields : Value → List (String × Value)
  | .table fields => fields
  | _ => []

def items : Value → List Value
  | .list items => items
  | _ => []

mutual
/-- What stands in a place after a value has been put there: a table is merged
into what was there, and any other value takes its place. -/
def merged (held : Value) : Value → Value
  | .table fields => mergedFields held fields
  | value => value

def mergedFields (held : Value) : List (String × Value) → Value
  | [] => held
  | (name, value) :: rest =>
      let name := Text.lowercase name
      let before := (Assoc.get? name held.fields).getD (.table [])
      mergedFields
        (.table (Assoc.put name (merged before value) held.fields)) rest
end

def putField (held : Value) (name : String) (value : Value) : Value :=
  let name := Text.lowercase name
  let before := (Assoc.get? name held.fields).getD (.table [])
  .table (Assoc.put name (before.merged value) held.fields)

private def index (place : Int) (count : Nat) : Nat :=
  if 0 ≤ place then place.toNat else count - place.natAbs

/-- Puts a value into a place of a list, which is filled up with nothing as far
as need be. -/
private def putItem (place : Nat) (value : Value)
    (items : List Value) : List Value :=
  (items ++ List.replicate (place + 1 - items.length) Value.nothing).set
    place value

private def putAt (held value : Value) : List PathStep → Value
  | [] => value
  | [.field name] => held.putField name value
  | [.item place] =>
      .list (putItem (index place held.items.length) value held.items)
  | .field name :: rest =>
      let name := Text.lowercase name
      let before := (Assoc.get? name held.fields).getD .nothing
      .table (Assoc.put name (putAt before value rest) held.fields)
  | .item place :: rest =>
      let place := index place held.items.length
      let before := held.items[place]?.getD .nothing
      .list (putItem place (putAt before value rest) held.items)

def put (held : Value) (path : Path) (value : Value) : Value :=
  putAt held value (.field path.first :: path.rest)

def putAll (held : Value) (entries : List (String × Value)) : Value :=
  entries.foldl (fun held entry => held.put (.ofText entry.1) entry.2) held

theorem exists_put_eq (path : Path) (value : Value) :
    ∃ change : Option Value → Value, ∀ held : Value, held.put path value =
      .table (Assoc.put (Text.lowercase path.first) (change (Assoc.get?
        (Text.lowercase path.first) held.fields)) held.fields) := by
  obtain ⟨first, rest⟩ := path
  cases rest with
  | nil =>
      exact ⟨fun before => (before.getD (.table [])).merged value, fun _ => rfl⟩
  | cons step rest =>
      exact ⟨fun before => putAt (before.getD .nothing) value (step :: rest),
        fun held => by
        simp only [put, putAt]⟩

theorem putAll_append (held : Value) (entries further : List (String × Value)) :
    held.putAll (entries ++ further) = (held.putAll entries).putAll further :=
  List.foldl_append

end Value

end Collate.Config
