namespace Collate.Number

def hexDigit? (character : Char) : Option Nat :=
  let code := character.toNat
  if character.isDigit then some (code - 48)
  else if 97 ≤ code && code ≤ 102 then some (code - 87)
  else if 65 ≤ code && code ≤ 70 then some (code - 55)
  else none

def hexCodeFrom? :
    (count : Nat) → (value : Nat) → List Char → Option (Nat × List Char)
  | 0, value, rest => some (value, rest)
  | _ + 1, _, [] => none
  | count + 1, value, character :: rest =>
      match hexDigit? character with
      | some digit => hexCodeFrom? count (16 * value + digit) rest
      | none => none

def hexCode? (count : Nat) (characters : List Char) :
    Option (Nat × List Char) :=
  hexCodeFrom? count 0 characters

def hexCharacter? (count : Nat) (characters : List Char) :
    Option (Char × List Char) := do
  let (code, rest) ← hexCode? count characters
  if code.isValidChar then return (Char.ofNat code, rest) else none

end Collate.Number
