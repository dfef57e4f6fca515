import Collate.Number.Hexadecimal
import Collate.Text.Character

namespace Collate.Config.Toml

def skipSpaces (characters : List Char) : List Char :=
  characters.dropWhile Text.isSpace

def isPlain (character : Char) : Bool :=
  character = '\t' || (32 ≤ character.toNat && character.toNat ≠ 127)

def afterLineEnd? : List Char → Option (List Char)
  | '\n' :: rest => some rest
  | '\r' :: '\n' :: rest => some rest
  | _ => none

private def escape? : List Char → Option (Char × List Char)
  | 'b' :: rest => some (Char.ofNat 8, rest)
  | 't' :: rest => some ('\t', rest)
  | 'n' :: rest => some ('\n', rest)
  | 'f' :: rest => some (Char.ofNat 12, rest)
  | 'r' :: rest => some ('\r', rest)
  | '"' :: rest => some ('"', rest)
  | '\\' :: rest => some ('\\', rest)
  | 'u' :: rest => Number.hexCharacter? 4 rest
  | 'U' :: rest => Number.hexCharacter? 8 rest
  | _ => none

private def line? (quote : Char) :
    (fuel : Nat) → (done : List Char) → List Char →
    Option (String × List Char)
  | 0, _, _ => none
  | _ + 1, _, [] => none
  | fuel + 1, done, character :: rest =>
      if character = quote then some (String.ofList done.reverse, rest)
      else if character = '\\' && quote = '"' then
        match escape? rest with
        | some (character, rest) => line? quote fuel (character :: done) rest
        | none => none
      else if isPlain character then line? quote fuel (character :: done) rest
      else none

private def skipLines : (fuel : Nat) → List Char → List Char
  | 0, characters => characters
  | fuel + 1, characters =>
      match afterLineEnd? (skipSpaces characters) with
      | some rest => skipLines fuel rest
      | none => skipSpaces characters

/-- The rest of a text behind a backslash at the end of a line: the blanks and
line ends that follow are no part of the text. -/
private def continued? (characters : List Char) : Option (List Char) :=
  (afterLineEnd? (skipSpaces characters)).map
    fun rest => skipLines rest.length rest

/-- A text of several lines up to its three quotes, before which up to two more
may stand. -/
private def block? (quote : Char) :
    (fuel : Nat) → (done : List Char) → List Char →
    Option (String × List Char)
  | 0, _, _ => none
  | fuel + 1, done, characters =>
      let quotes := (characters.takeWhile (· = quote)).length
      if 3 ≤ quotes then
        if 5 < quotes then none
        else
          some (String.ofList (List.replicate (quotes - 3) quote ++
            done).reverse, characters.drop quotes)
      else
        match characters with
        | [] => none
        | '\r' :: '\n' :: rest => block? quote fuel ('\n' :: done) rest
        | '\n' :: rest => block? quote fuel ('\n' :: done) rest
        | '\\' :: rest =>
            if quote ≠ '"' then block? quote fuel ('\\' :: done) rest
            else
              match escape? rest, continued? rest with
              | some (character, rest), _ =>
                  block? quote fuel (character :: done) rest
              | none, some rest => block? quote fuel done rest
              | none, none => none
        | character :: rest =>
            if isPlain character then block? quote fuel (character :: done) rest
            else none

def text? : List Char → Option (String × List Char)
  | '"' :: '"' :: '"' :: rest =>
      block? '"' rest.length.succ [] ((afterLineEnd? rest).getD rest)
  | '\'' :: '\'' :: '\'' :: rest =>
      block? '\'' rest.length.succ [] ((afterLineEnd? rest).getD rest)
  | '"' :: rest => line? '"' rest.length.succ [] rest
  | '\'' :: rest => line? '\'' rest.length.succ [] rest
  | _ => none

private def name? : List Char → Option (String × List Char)
  | '"' :: rest => line? '"' rest.length.succ [] rest
  | '\'' :: rest => line? '\'' rest.length.succ [] rest
  | characters =>
      let name := characters.takeWhile Text.isNameCharacter
      if name.isEmpty then none
      else some (String.ofList name, characters.dropWhile Text.isNameCharacter)

private def names? : (fuel : Nat) → List Char → Option (List String × List Char)
  | 0, _ => none
  | fuel + 1, characters =>
      match name? (skipSpaces characters) with
      | none => none
      | some (name, rest) =>
          match skipSpaces rest with
          | '.' :: rest =>
              (names? fuel rest).map fun (names, rest) => (name :: names, rest)
          | rest => some ([name], rest)

def nameLimit : Nat := 80

def key? (characters : List Char) : Option (List String × List Char) :=
  (names? characters.length.succ characters).filter
    fun (names, _) => names.length < nameLimit

end Collate.Config.Toml
