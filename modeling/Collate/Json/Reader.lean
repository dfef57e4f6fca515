import Collate.Json.Number
import Collate.Number.Hexadecimal

namespace Collate.Json

open Collate.Number (hexCode?)

def isSeparator (character : Char) : Bool :=
  character = ' ' || character = '\n' || character = '\t' || character = '\r'

def skipSeparators (characters : List Char) : List Char :=
  characters.dropWhile isSeparator

/-- A character by its code units: one unit, or a leading and a trailing
surrogate. -/
private def escapedCode? (characters : List Char) :
    Option (Char × List Char) := do
  let (unit, rest) ← hexCode? 4 characters
  if unit < 0xD800 || 0xE000 ≤ unit then return (Char.ofNat unit, rest)
  else if 0xDC00 ≤ unit then none
  else
    match rest with
    | '\\' :: 'u' :: rest => do
        let (trail, rest) ← hexCode? 4 rest
        if 0xDC00 ≤ trail && trail < 0xE000 then
          return (Char.ofNat
            (0x10000 + (unit - 0xD800) * 0x400 + (trail - 0xDC00)), rest)
        else none
    | _ => none

private def escape? : List Char → Option (Char × List Char)
  | '"' :: rest => some ('"', rest)
  | '\\' :: rest => some ('\\', rest)
  | '/' :: rest => some ('/', rest)
  | 'b' :: rest => some (Char.ofNat 8, rest)
  | 'f' :: rest => some (Char.ofNat 12, rest)
  | 'n' :: rest => some ('\n', rest)
  | 'r' :: rest => some ('\r', rest)
  | 't' :: rest => some ('\t', rest)
  | 'u' :: rest => escapedCode? rest
  | _ => none

private def readText : (fuel : Nat) → (done : List Char) → List Char →
    Option (String × List Char)
  | 0, _, _ => none
  | _ + 1, _, [] => none
  | fuel + 1, done, character :: rest =>
      if character = '"' then some (String.ofList done.reverse, rest)
      else if character = '\\' then
        match escape? rest with
        | some (character, rest) => readText fuel (character :: done) rest
        | none => none
      else if character.toNat < 32 then none
      else readText fuel (character :: done) rest

private def afterWord? (word : String) (characters : List Char) :
    Option (List Char) :=
  if word.toList.isPrefixOf characters then
    some (characters.drop word.length) else none

def depthLimit : Nat := 127

mutual
private def readValue :
    (fuel : Nat) → (depth : Nat) → List Char → Option (Json × List Char)
  | 0, _, _ => none
  | fuel + 1, depth, characters =>
      match skipSeparators characters with
      | [] => none
      | '"' :: rest =>
          (readText rest.length.succ [] rest).map
            fun found => (.text found.1, found.2)
      | '[' :: rest =>
          match depth with
          | 0 => none
          | depth + 1 =>
              match skipSeparators rest with
              | ']' :: rest => some (.array [], rest)
              | rest => readItems fuel depth [] rest
      | '\x7b' :: rest =>
          match depth with
          | 0 => none
          | depth + 1 =>
              match skipSeparators rest with
              | '\x7d' :: rest => some (.object [], rest)
              | rest => readFields fuel depth [] rest
      | 't' :: rest =>
          (afterWord? "rue" rest).map fun rest => (.bool true, rest)
      | 'f' :: rest =>
          (afterWord? "alse" rest).map fun rest => (.bool false, rest)
      | 'n' :: rest => (afterWord? "ull" rest).map fun rest => (.null, rest)
      | characters =>
          (Number.read characters).map fun found => (.number found.1, found.2)

private def readItems :
    (fuel : Nat) → (depth : Nat) → (done : List Json) → List Char →
    Option (Json × List Char)
  | 0, _, _, _ => none
  | fuel + 1, depth, done, characters =>
      match readValue fuel depth characters with
      | none => none
      | some (item, rest) =>
          match skipSeparators rest with
          | ',' :: rest => readItems fuel depth (item :: done) rest
          | ']' :: rest => some (.array (item :: done).reverse, rest)
          | _ => none

private def readFields :
    (fuel : Nat) → (depth : Nat) → (done : List (String × Json)) →
    List Char → Option (Json × List Char)
  | 0, _, _, _ => none
  | fuel + 1, depth, done, characters =>
      match skipSeparators characters with
      | '"' :: rest =>
          match readText rest.length.succ [] rest with
          | none => none
          | some (name, rest) =>
              match skipSeparators rest with
              | ':' :: rest =>
                  match readValue fuel depth rest with
                  | none => none
                  | some (value, rest) =>
                      match skipSeparators rest with
                      | ',' :: rest =>
                          readFields fuel depth ((name, value) :: done) rest
                      | '\x7d' :: rest =>
                          some (ofFields ((name, value) :: done).reverse, rest)
                      | _ => none
              | _ => none
      | _ => none
end

def read? (text : String) : Option Json := do
  let characters := text.toList
  let (value, rest) ←
    readValue (2 * characters.length + 2) depthLimit characters
  if (skipSeparators rest).isEmpty then return value else none

end Collate.Json
