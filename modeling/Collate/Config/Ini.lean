import Collate.Config.Value
import Collate.Number.Hexadecimal
import Collate.Text.Blank
import Collate.Text.Character

namespace Collate.Config.Ini

/-- What a backslash stands for with the character behind it: most characters
stand for themselves, and the end of a line for nothing. One that is written as
a number has four places, the first of which may be a plus sign. -/
private def escape? : List Char → Option (List Char × List Char)
  | [] => none
  | '0' :: rest => some ([Char.ofNat 0], rest)
  | 'a' :: rest => some ([Char.ofNat 7], rest)
  | 'b' :: rest => some ([Char.ofNat 8], rest)
  | 't' :: rest => some (['\t'], rest)
  | 'r' :: rest => some (['\r'], rest)
  | 'n' :: rest => some (['\n'], rest)
  | '\n' :: rest => some ([], rest)
  | 'x' :: '+' :: rest =>
      (Number.hexCharacter? 3 rest).map
        fun (character, rest) => ([character], rest)
  | 'x' :: rest =>
      (Number.hexCharacter? 4 rest).map
        fun (character, rest) => ([character], rest)
  | character :: rest => some ([character], rest)

private def until? (isEnd : Char → Bool) (mayRunOut : Bool) :
    (fuel : Nat) → (done : List Char) →
    List Char → Option (List Char × List Char)
  | 0, _, _ => none
  | _ + 1, done, [] => if mayRunOut then some (done.reverse, []) else none
  | fuel + 1, done, character :: rest =>
      if isEnd character then some (done.reverse, character :: rest)
      else if character = '\\' then
        match escape? rest with
        | some (characters, rest) =>
            until? isEnd mayRunOut fuel (characters ++ done) rest
        | none => none
      else until? isEnd mayRunOut fuel (character :: done) rest

private def line? (characters : List Char) : Option (List Char × List Char) :=
  until? Text.isLineEnd true characters.length.succ [] characters

private def text? : List Char → Option (List Char × List Char)
  | [] => some ([], [])
  | character :: rest =>
      if character = '"' || character = '\'' then do
        let (quoted, rest) ←
          until? (· = character) false rest.length.succ [] rest
        let (plain, rest) ← line? (rest.drop 1)
        return (quoted ++ plain, rest)
      else line? (character :: rest)

/-- What has been read: the entries in front of all sections, the sections, the
name of the present section, and a name that waits for its text. -/
private structure Progress where
  entries : List (String × Value)
  sections : List (String × List (String × Value))
  current : Option String
  waiting : String

private def Progress.add (progress : Progress) (text : String) : Progress :=
  let entry := (progress.waiting, Value.text text)
  match progress.current with
  | none =>
      { progress with
        entries := Assoc.put entry.1 entry.2 progress.entries, waiting := "" }
  | some name =>
      let held := (Assoc.get? name progress.sections).getD []
      { progress with
        sections :=
          Assoc.put name (Assoc.put entry.1 entry.2 held) progress.sections
        waiting := "" }

private def Progress.open (progress : Progress) (name : String) : Progress :=
  { progress with
    sections := Assoc.put name [] progress.sections, current := some name }

private def trimmed (characters : List Char) : String :=
  String.ofList (Text.trim characters)

private def endsLine (blanks : List Char) : Bool := blanks.getLast? = some '\n'

private def parts? :
    (fuel : Nat) → (isLineStart : Bool) → Progress → List Char → Option Progress
  | 0, _, _, _ => none
  | _ + 1, _, progress, [] => some progress
  | fuel + 1, isLineStart, progress, character :: rest =>
      let next : Progress → List Char → Option Progress := fun progress rest =>
        parts? fuel (endsLine (rest.takeWhile Text.isBlank)) progress
          (rest.dropWhile Text.isBlank)
      if character = ';' || character = '#' then
        if isLineStart then
          let behind := (rest.dropWhile (· ≠ '\n')).drop 1
          let blanks := behind.takeWhile Text.isBlank
          parts? fuel (blanks.isEmpty || endsLine blanks) progress
            (behind.dropWhile Text.isBlank)
        else none
      else if character = '[' then
        match until? (· = ']') false rest.length.succ [] rest with
        | some (name, rest) => next (progress.open (trimmed name)) (rest.drop 1)
        | none => none
      else if character = '=' || character = ':' then
        if progress.waiting.isEmpty then none
        else
          let behind := rest.dropWhile fun character =>
            Text.isBlank character && !Text.isLineEnd character
          match text? behind with
          | some (text, rest) => next (progress.add (trimmed text)) rest
          | none => none
      else
        match until? (fun other => other = '=' || other = ':') false
          (rest.length + 2) [] (character :: rest) with
        | some (name, rest) =>
            next { progress with waiting := trimmed name } rest
        | none => none

def read? (text : String) : Option Value := do
  let characters := text.toList
  let blanks := characters.takeWhile Text.isBlank
  let progress ← parts? (characters.length + 1) (blanks.isEmpty || endsLine
      blanks) { entries := [], sections := [], current := none, waiting := "" }
      (characters.dropWhile Text.isBlank)
  let sections :=
    progress.sections.map fun (name, fields) => (name, Value.table fields)
  return .table (sections.foldl
    (fun fields entry => Assoc.put entry.1 entry.2 fields) progress.entries)

end Collate.Config.Ini
