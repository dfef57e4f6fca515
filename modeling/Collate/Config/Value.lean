import Collate.Config.Reading
import Collate.Json.Basic
import Collate.Number.Integer
import Collate.Number.Layout

namespace Collate.Config

open Collate.Number (Binary64)

inductive Value where
  | nothing
  | bool (value : Bool)
  | integer (value : Int)
  | real (value : Binary64)
  | text (value : String)
  | list (items : List Value)
  | table (fields : List (String × Value))
deriving Inhabited

namespace Value

private def truthOf? (word : String) : Option Bool :=
  match word.toLower with
  | "true" => some true
  | "on" => some true
  | "yes" => some true
  | "false" => some false
  | "off" => some false
  | "no" => some false
  | _ => none

/-- A value as an unsigned number: texts are read, and other numbers are rounded
and kept within the range. -/
def unsigned? : Value → Option Nat
  | .bool value => some value.toNat
  | .integer value => if 0 ≤ value then some value.toNat else none
  | .real value => some value.toUnsigned64
  | .text value =>
      match truthOf? value with
      | some truth => some truth.toNat
      | none => Number.unsigned64? value
  | _ => none

def bool? : Value → Option Bool
  | .bool value => some value
  | .integer value => some (value ≠ 0)
  | .real value => some (!value.isZero)
  | .text value =>
      if value = "1" then some true else if value = "0" then some false
        else truthOf? value
  | _ => none

def text? : Value → Option String
  | .text value => some value
  | .bool value => some (toString value)
  | .integer value => some (toString value)
  | .real value => some (Number.Layout.plain.text value)
  | _ => none

/-- A value as a section. In a list, more items may stand than the section has
fields. -/
def parts? (_ : Nat) : Value → Option (Section Value)
  | .table fields => some (.named fields)
  | .list items => some (.ordered items)
  | _ => none

/-- A document as a value. A whole number that is too large for a signed one
becomes a floating-point number. -/
def ofDocument : Json → Value
  | .null => .nothing
  | .bool value => .bool value
  | .number (.integer value) =>
      if value < Number.signedLimit then .integer value
        else .real (Binary64.ofInt value)
  | .number (.real value) => .real value
  | .text value => .text value
  | .array items => .list (ofItems items)
  | .object fields => .table (ofFields fields)
where
  ofItems : List Json → List Value
    | [] => []
    | item :: rest => ofDocument item :: ofItems rest
  ofFields : List (String × Json) → List (String × Value)
    | [] => []
    | (name, value) :: rest => (name, ofDocument value) :: ofFields rest

end Value

def Reading.value : Reading Value where
  parts? := Value.parts?
  unsigned? := Value.unsigned?
  bool? := Value.bool?
  text? := Value.text?

def Settings.ofValue? (value : Value) : Option Settings :=
  Reading.value.settings? value

end Collate.Config
