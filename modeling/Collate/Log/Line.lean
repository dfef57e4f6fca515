import Collate.Json.Basic
import Collate.Log.Event
import Collate.Text.Quoted

namespace Collate.Log

def FieldValue.plain : FieldValue → String
  | .quoted text => Text.quoted text
  | value => value.text

def FieldValue.document : FieldValue → Json
  | .number value => .ofNat value
  | .flag value => .bool value
  | value => .text value.text

namespace Event

def plainLine (event : Event) : String :=
  let fields := event.fields.map fun (name, value) => name ++ "=" ++ value.plain
  event.level.name ++ " " ++ event.target ++ ": " ++
    " ".intercalate (event.message :: fields)

def documentFields (event : Event) : Json :=
  .ofFields
    (("message", .text event.message) ::
      event.fields.map fun (name, value) => (name, value.document))

end Event

end Collate.Log
