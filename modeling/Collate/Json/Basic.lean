import Collate.Assoc
import Collate.Number.Binary64

namespace Collate

open Number (Binary64)

/-- A number of a document. Whole numbers lie in the signed or the unsigned
64-bit range. -/
inductive Json.Number where
  | integer (value : Int)
  | real (value : Binary64)
deriving DecidableEq, Inhabited

/-- A document. The fields of an object have no order of their own: they are
kept in the order of their names, each name once. -/
inductive Json where
  | null
  | bool (value : Bool)
  | number (value : Json.Number)
  | text (value : String)
  | array (items : List Json)
  | object (fields : List (String × Json))
deriving Inhabited

namespace Json

def Number.same : Number → Number → Bool
  | .integer left, .integer right => left = right
  | .real left, .real right => left.same right
  | _, _ => false

mutual
/-- Equality of documents, which differs from identity only in that the two
floating-point zeros are equal. -/
def same : Json → Json → Bool
  | .null, .null => true
  | .bool left, .bool right => left = right
  | .number left, .number right => left.same right
  | .text left, .text right => left = right
  | .array left, .array right => sameItems left right
  | .object left, .object right => sameFields left right
  | _, _ => false

def sameItems : List Json → List Json → Bool
  | [], [] => true
  | left :: leftRest, right :: rightRest =>
      same left right && sameItems leftRest rightRest
  | _, _ => false

def sameFields : List (String × Json) → List (String × Json) → Bool
  | [], [] => true
  | (leftName, left) :: leftRest, (rightName, right) :: rightRest =>
      leftName = rightName && same left right && sameFields leftRest rightRest
  | _, _ => false
end

def ofInt (value : Int) : Json := .number (.integer value)

def ofNat (value : Nat) : Json := .number (.integer value)

def ofFields (fields : List (String × Json)) : Json :=
  .object (Assoc.ofEntries fields)

def field? (name : String) : Json → Option Json
  | .object fields => Assoc.get? name fields
  | _ => none

def int? : Json → Option Int
  | .number (.integer value) => some value
  | _ => none

def nat? : Json → Option Nat
  | .number (.integer (.ofNat value)) => some value
  | _ => none

def text? : Json → Option String
  | .text value => some value
  | _ => none

def bool? : Json → Option Bool
  | .bool value => some value
  | _ => none

end Json

end Collate
