import Collate.Config.Toml.Scalar
import Collate.Config.Toml.Text
import Collate.Config.Toml.Tree

namespace Collate.Config.Toml

def depthLimit : Nat := 80

private def afterComment? (characters : List Char) : Option (List Char) :=
  match characters.dropWhile isPlain with
  | [] => some []
  | '\n' :: rest => some ('\n' :: rest)
  | '\r' :: '\n' :: rest => some ('\n' :: rest)
  | _ => none

private def skipGaps? : (fuel : Nat) → List Char → Option (List Char)
  | 0, _ => none
  | fuel + 1, characters =>
      match skipSpaces characters with
      | '#' :: rest => (afterComment? rest).bind (skipGaps? fuel)
      | rest =>
          match afterLineEnd? rest with
          | some rest => skipGaps? fuel rest
          | none => some rest

/-- A word at the front; a date and a time may have a blank between them. -/
private def word (characters : List Char) : List Char × List Char :=
  let first := characters.takeWhile isWordCharacter
  let rest := characters.dropWhile isWordCharacter
  match rest with
  | ' ' :: behind =>
      let second := behind.takeWhile isWordCharacter
      if isDate first && second.head?.any Char.isDigit then
        (first ++ ' ' :: second, behind.dropWhile isWordCharacter)
      else (first, rest)
  | _ => (first, rest)

mutual
private def value? : (fuel room : Nat) → List Char → Option (Value × List Char)
  | 0, _, _ => none
  | _ + 1, _, [] => none
  | _ + 1, 0, '[' :: _ => none
  | _ + 1, 0, '\x7b' :: _ => none
  | fuel + 1, room + 1, '[' :: rest => items? fuel room [] rest
  | fuel + 1, room + 1, '\x7b' :: rest =>
      match skipSpaces rest with
      | '\x7d' :: rest => some (.table [], rest)
      | rest => fields? fuel room .root rest
  | _ + 1, _, character :: rest =>
      if character = '"' || character = '\'' then
        (text? (character :: rest)).map fun (text, rest) => (.text text, rest)
      else
        let (word, rest) := word (character :: rest)
        (scalar? word).map fun value => (value, rest)

private def items? : (fuel room : Nat) → (done : List Value) → List Char →
    Option (Value × List Char)
  | 0, _, _, _ => none
  | fuel + 1, room, done, characters =>
      match skipGaps? characters.length.succ characters with
      | none => none
      | some (']' :: rest) => some (.list done.reverse, rest)
      | some rest =>
          match value? fuel room rest with
          | none => none
          | some (value, rest) =>
              match skipGaps? rest.length.succ rest with
              | some (',' :: rest) => items? fuel room (value :: done) rest
              | some (']' :: rest) => some (.list (value :: done).reverse, rest)
              | _ => none

private def fields? : (fuel room : Nat) → (done : Table) → List Char →
    Option (Value × List Char)
  | 0, _, _, _ => none
  | fuel + 1, room, done, characters =>
      match key? characters with
      | some (names, '=' :: rest) =>
          match value? fuel room (skipSpaces rest) with
          | none => none
          | some (value, rest) =>
              match done.add names.dropLast (names.getLastD "") value,
                skipSpaces rest with
              | some done, ',' :: rest => fields? fuel room done rest
              | some done, '\x7d' :: rest => some (done.toValue, rest)
              | _, _ => none
      | _ => none
end

private def finishLine? (characters : List Char) : Option (List Char) :=
  match skipSpaces characters with
  | [] => some []
  | '#' :: rest =>
      (afterComment? rest).map fun rest => (afterLineEnd? rest).getD rest
  | rest => afterLineEnd? rest

/-- What has been read of a document: its tables, and the names of the one that
lines add to. -/
private structure Progress where
  root : Table
  current : List String

private def header? (progress : Progress) (isItem : Bool)
    (characters : List Char) : Option (Progress × List Char) := do
  let (names, rest) ← key? characters
  let rest ← match isItem, rest with
    | true, ']' :: ']' :: rest => some rest
    | false, ']' :: rest => some rest
    | _, _ => none
  let begin := if isItem then Table.openItem else Table.openTable
  let root ← begin names.dropLast (names.getLastD "") progress.root
  return ({ root, current := names }, rest)

private def entry? (progress : Progress) (characters : List Char) :
    Option (Progress × List Char) := do
  let (names, rest) ← key? characters
  match rest with
  | '=' :: rest => do
      let rest := skipSpaces rest
      let (value, rest) ← value? (2 * rest.length + 2) (depthLimit - 1) rest
      let root ← Table.changeAt false (Table.add names.dropLast
        (names.getLastD "") value) progress.current progress.root
      return ({ progress with root }, rest)
  | _ => none

private def lines? : (fuel : Nat) → Progress → List Char → Option Table
  | 0, _, _ => none
  | fuel + 1, progress, characters =>
      match skipSpaces characters with
      | [] => some progress.root
      | character :: rest => do
          let (progress, rest) ←
            if character = '#' || character = '\n' || character = '\r' then
              some (progress, character :: rest)
            else if character = '[' then
              match rest with
              | '[' :: rest => header? progress true rest
              | _ => header? progress false rest
            else entry? progress (character :: rest)
          lines? fuel progress (← finishLine? rest)

def read? (text : String) : Option Value :=
  let characters := match text.toList with
    | '\ufeff' :: rest => rest
    | characters => characters
  (lines? characters.length.succ { root := .root, current := [] }
    characters).map Table.toValue

end Collate.Config.Toml
