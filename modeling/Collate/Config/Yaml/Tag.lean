import Collate.Config.Yaml.Cursor
import Collate.Config.Yaml.Token
import Collate.Number.Hexadecimal

namespace Collate.Config.Yaml

private def width? (byte : Nat) : Option Nat :=
  if byte < 0x80 then some 1
  else if 0xC0 ≤ byte && byte < 0xE0 then some 2
  else if 0xE0 ≤ byte && byte < 0xF0 then some 3
  else if 0xF0 ≤ byte && byte < 0xF8 then some 4
  else none

private def byte? : List Char → Option (Nat × List Char)
  | '%' :: rest => Number.hexCode? 2 rest
  | _ => none

private def furtherBytes? :
    (count : Nat) → (code : Nat) → List Char → Option (Nat × List Char)
  | 0, code, rest => some (code, rest)
  | count + 1, code, rest => do
      let (byte, rest) ← byte? rest
      if 0x80 ≤ byte && byte < 0xC0 then
        furtherBytes? count (256 * code + byte) rest
      else none

private def addressEscape? (characters : List Char) :
    Option (Char × List Char) := do
  let (byte, rest) ← byte? characters
  let width ← width? byte
  let (code, rest) ← furtherBytes? (width - 1) byte rest
  if code.isValidChar then return (Char.ofNat code, rest) else none

private def addressFrom? (isMember : Char → Bool) :
    (fuel : Nat) → (done : List Char) →
    List Char → Option (List Char × List Char)
  | 0, _, _ => none
  | _ + 1, done, [] => some (done.reverse, [])
  | fuel + 1, done, character :: rest =>
      if !isMember character then some (done.reverse, character :: rest)
      else if character = '%' then
        match addressEscape? (character :: rest) with
        | some (character, rest) =>
            addressFrom? isMember fuel (character :: done) rest
        | none => none
      else addressFrom? isMember fuel (character :: done) rest

private def address? (isMember : Char → Bool) (characters : List Char) :
    Option (List Char × List Char) :=
  addressFrom? isMember (characters.length + 1) [] characters

private def handle? : List Char → Option (List Char × List Char)
  | '!' :: rest =>
      let name := rest.takeWhile Text.isNameCharacter
      match rest.dropWhile Text.isNameCharacter with
      | '!' :: rest => some ('!' :: name ++ ['!'], rest)
      | rest => some ('!' :: name, rest)
  | _ => none

/-- A tag at the front. One in angles is a whole address. Without a second
exclamation mark, the name is a part of the suffix, and an exclamation mark
alone is a suffix without a handle. -/
private def tagToken? : List Char → Option (Token × List Char)
  | '!' :: '<' :: rest => do
      let (address, rest) ← address? isAddressCharacter rest
      match rest with
      | '>' :: rest => return (.tag "" (String.ofList address), rest)
      | _ => none
  | characters => do
      let (handle, rest) ← handle? characters
      let (suffix, rest) ← address? isTagCharacter rest
      if 2 ≤ handle.length && handle.getLast? = some '!' then
        if suffix.isEmpty then none
        else return (.tag (String.ofList handle) (String.ofList suffix), rest)
      else
        let suffix := handle.drop 1 ++ suffix
        return (if suffix.isEmpty then .tag "" "!"
          else .tag "!" (String.ofList suffix), rest)

def Cursor.tag? (cursor : Cursor) (inFlow : Bool) :
    Option (Token × Cursor) := do
  let (token, rest) ← tagToken? cursor.rest
  if endsWord rest || inFlow && startsFlowMark rest then
    return (token, cursor.skipTo rest)
  else none

def Cursor.anchor? (cursor : Cursor) : Option (String × Cursor) :=
  let name := (cursor.rest.drop 1).takeWhile isAnchorCharacter
  if name.isEmpty then none
  else some (String.ofList name, cursor.skip (name.length + 1))

private def versionNumber? (characters : List Char) : Option (List Char) :=
  let digits := characters.takeWhile Char.isDigit
  if digits.isEmpty || 9 < digits.length then none
    else some (characters.drop digits.length)

private def version? (characters : List Char) : Option (Token × List Char) := do
  match ← versionNumber? (characters.dropWhile Text.isSpace) with
  | '.' :: rest => return (.version, ← versionNumber? rest)
  | _ => none

private def tagHandle? (characters : List Char) :
    Option (Token × List Char) := do
  let (handle, rest) ← handle? (characters.dropWhile Text.isSpace)
  if handle ≠ ['!'] && handle.getLast? ≠ some '!' then none
  else
    let (address, rest) ← match rest.dropWhile Text.isSpace with
      | '!' :: rest =>
          (address? isAddressCharacter rest).map fun (address, rest) =>
          ('!' :: address, rest)
      | character :: rest =>
          if isTagCharacter character then
            address? isAddressCharacter (character :: rest) else none
      | [] => none
    if endsWord rest then
      return (.tagHandle (String.ofList handle) (String.ofList address), rest)
    else none

/-- A directive at a cursor, with the end of its line. One of another name is
left alone. -/
def Cursor.directive? (cursor : Cursor) : Option (Token × Cursor) := do
  let behind := cursor.skip 1
  let name := behind.rest.takeWhile Text.isNameCharacter
  let behind := behind.skip name.length
  if name.isEmpty || !endsWord behind.rest then none
  else
    let (token, behind) ← match String.ofList name with
      | "YAML" =>
          (version? behind.rest).map
            fun (token, rest) => (token, behind.skipTo rest)
      | "TAG" =>
          (tagHandle? behind.rest).map
            fun (token, rest) => (token, behind.skipTo rest)
      | _ => some (.tagHandle "" "", behind.skipLine)
    let behind ← behind.skipTail?
    if endsLine behind.rest then return (token, behind.skipBreak) else none

end Collate.Config.Yaml
