import Collate.Json.Basic
import Collate.Number.Layout
import Collate.Text.Quoted

namespace Collate.Json

def Number.print : Number → String
  | .integer value => toString value
  | .real value => Number.Layout.document.text value

private def controlEscape (code : Nat) : String :=
  let digits := Text.hexadecimal code
  "\\u" ++ String.ofList (List.replicate (4 - digits.length) '0') ++ digits

private def escaped (character : Char) : String :=
  if character = '"' then "\\\""
  else if character = '\\' then "\\\\"
  else if character = '\n' then "\\n"
  else if character = '\r' then "\\r"
  else if character = '\t' then "\\t"
  else if character.toNat = 8 then "\\b"
  else if character.toNat = 12 then "\\f"
  else if character.toNat < 32 then controlEscape character.toNat
  else String.singleton character

def printText (text : String) : String :=
  "\"" ++ String.join (text.toList.map escaped) ++ "\""

mutual
def print : Json → String
  | .null => "null"
  | .bool value => if value then "true" else "false"
  | .number value => value.print
  | .text value => printText value
  | .array items => "[" ++ ",".intercalate (printItems items) ++ "]"
  | .object fields => "\x7b" ++ ",".intercalate (printFields fields) ++ "\x7d"

def printItems : List Json → List String
  | [] => []
  | item :: rest => print item :: printItems rest

def printFields : List (String × Json) → List String
  | [] => []
  | (name, value) :: rest =>
      (printText name ++ ":" ++ print value) :: printFields rest
end

end Collate.Json
