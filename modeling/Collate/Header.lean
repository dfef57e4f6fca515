import Collate.Json.Printer
import Collate.Number.Integer

namespace Collate

/-- A destination of messages. Its number tells it from every other one,
whatever their names. -/
structure Channel where
  id : Nat
  name : String
deriving DecidableEq, Inhabited

inductive HeaderValue where
  | text (value : String)
  | integer (value : Int)
  | bool (value : Bool)
  | json (value : Json)
  | channel (channel : Channel)
deriving Inhabited

namespace HeaderValue

def text? : HeaderValue → Option String
  | .text value => some value
  | _ => none

def integer? : HeaderValue → Option Int
  | .integer value => some value
  | .text value => Number.signed64? value
  | _ => none

def kind : HeaderValue → String
  | .text _ => "text"
  | .integer _ => "integer"
  | .bool _ => "bool"
  | .json _ => "json"
  | .channel _ => "channel"

def same : HeaderValue → HeaderValue → Bool
  | .text left, .text right => left = right
  | .integer left, .integer right => left = right
  | .bool left, .bool right => left = right
  | .json left, .json right => left.same right
  | .channel left, .channel right => left = right
  | _, _ => false

def description : HeaderValue → String
  | .text value => "Text(" ++ Text.quoted value ++ ")"
  | .integer value => "Integer(" ++ toString value ++ ")"
  | .bool value => "Bool(" ++ toString value ++ ")"
  | .json value => "Json(" ++ value.print ++ ")"
  | .channel destination => "Channel(" ++ destination.name ++ ")"

end HeaderValue

namespace Header

def correlationId : String := "correlation_id"

def sequenceNumber : String := "sequence_number"

def sequenceSize : String := "sequence_size"

def replyChannel : String := "reply_channel"

end Header

/-- Values under names, which are in order and stand once each. -/
structure Headers where
  entries : List (String × HeaderValue)
  ordered : (entries.map Prod.fst).Pairwise (· < ·)

namespace Headers

def empty : Headers where
  entries := []
  ordered := List.Pairwise.nil

instance : Inhabited Headers := ⟨empty⟩

def get? (headers : Headers) (name : String) : Option HeaderValue :=
  Assoc.get? name headers.entries

def contains (headers : Headers) (name : String) : Bool :=
  (headers.get? name).isSome

def set (headers : Headers) (name : String)
    (value : HeaderValue) : Headers where
  entries := Assoc.insert name value headers.entries
  ordered := Assoc.ordered_insert headers.ordered name value

def filter (headers : Headers) (keeps : String × HeaderValue → Bool) :
    Headers where
  entries := headers.entries.filter keeps
  ordered := headers.ordered.sublist (List.filter_sublist.map Prod.fst)

def names (headers : Headers) : List String :=
  headers.entries.map Prod.fst

def size (headers : Headers) : Nat :=
  headers.entries.length

/-- An unsigned 32-bit number under a name; zero where there is none. -/
def number (headers : Headers) (name : String) : Nat :=
  match (headers.get? name).bind HeaderValue.integer? with
  | some value => (Number.unsigned32? value).getD 0
  | none => 0

def sequenceNumber (headers : Headers) : Nat :=
  headers.number Header.sequenceNumber

def sequenceSize (headers : Headers) : Nat :=
  headers.number Header.sequenceSize

def correlationId (headers : Headers) : Option HeaderValue :=
  headers.get? Header.correlationId

def replyChannel (headers : Headers) : Option HeaderValue :=
  headers.get? Header.replyChannel

def same (left right : Headers) : Bool :=
  sameEntries left.entries right.entries
where
  sameEntries : List (String × HeaderValue) → List (String × HeaderValue) → Bool
    | [], [] => true
    | (leftName, left) :: leftRest, (rightName, right) :: rightRest =>
        leftName =
          rightName && left.same right && sameEntries leftRest rightRest
    | _, _ => false

@[simp] theorem get?_empty (name : String) : empty.get? name = none := rfl

@[simp] theorem get?_set_self (headers : Headers) (name : String)
    (value : HeaderValue) : (headers.set name value).get? name = some value :=
  Assoc.get?_insert_self name value headers.entries

theorem get?_set_of_ne (headers : Headers) {name other : String}
    (different : other ≠ name) (value : HeaderValue) :
    (headers.set name value).get? other = headers.get? other :=
  Assoc.get?_insert_of_ne different value headers.entries

theorem get?_filter (headers : Headers) (keeps : String × HeaderValue → Bool)
    (name : String) :
    (headers.filter keeps).get? name =
      (headers.get? name).filter fun value => keeps (name, value) :=
  Assoc.get?_filter headers.ordered keeps name

end Headers

end Collate
