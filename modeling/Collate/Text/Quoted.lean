import Collate.Text.Unprintable

namespace Collate.Text

def hexadecimal (number : Nat) : String :=
  String.ofList (Nat.toDigits 16 number)

def quotedCharacter (character : Char) : String :=
  if character = '"' then "\\\""
  else if character = '\\' then "\\\\"
  else if character = '\n' then "\\n"
  else if character = '\r' then "\\r"
  else if character = '\t' then "\\t"
  else if character = Char.ofNat 0 then "\\0"
  else if isUnprintable character then
    "\\u\x7b" ++ hexadecimal character.toNat ++ "\x7d"
  else String.singleton character

def quoted (text : String) : String :=
  "\"" ++ String.join (text.toList.map quotedCharacter) ++ "\""

def described (kind : String) (fields : List (String × String)) : String :=
  kind ++ " \x7b " ++ ", ".intercalate
    (fields.map fun field => field.1 ++ ": " ++ field.2) ++ " \x7d"

end Collate.Text
