import Collate.Config.Yaml.Fold
import Collate.Number.Hexadecimal

namespace Collate.Config.Yaml

private def escapes : List (Char × Nat) :=
  [('0', 0), ('a', 7), ('b', 8), ('t', 9), ('\t', 9), ('n', 10), ('v', 11),
    ('f', 12), ('r', 13), ('e', 27), (' ', 32), ('"', 34), ('/', 47),
    ('\\', 92), ('N', 0x85), ('_', 0xA0), ('L', 0x2028), ('P', 0x2029)]

private def escape? : List Char → Option (Char × List Char)
  | 'x' :: rest => Number.hexCharacter? 2 rest
  | 'u' :: rest => Number.hexCharacter? 4 rest
  | 'U' :: rest => Number.hexCharacter? 8 rest
  | character :: rest =>
      (escapes.find? fun entry => entry.1 = character).map fun entry =>
        (Char.ofNat entry.2, rest)
  | [] => none

/-- A word up to the next blank or quote. A backslash at the end of a line ends
it as well, so that the lines are joined. -/
private def word? (quote : Char) : (fuel : Nat) → (done : List Char) → Cursor →
    Option (List Char × Fold × Cursor)
  | 0, _, _ => none
  | fuel + 1, done, cursor =>
      match cursor.rest with
      | [] => some (done, .none, cursor)
      | character :: rest =>
          if Text.isSpace character || Text.isLineEnd character then
            some (done, .none, cursor)
          else if character = quote then
            if quote = '\'' && rest.head? = some quote then
              word? quote fuel (quote :: done) (cursor.skip 2)
            else some (done, .none, cursor)
          else if character = '\\' && quote = '"' then
            if rest.head?.any Text.isLineEnd then
              some (done, .joined, (cursor.skip 1).skipBreak)
            else
              match escape? rest with
              | some (character, rest) =>
                  word? quote fuel (character :: done) (cursor.skipTo rest)
              | none => none
          else word? quote fuel (character :: done) (cursor.skip 1)

private def foldQuoted? (margin : Int) :
    (fuel : Nat) → Fold → Cursor → Option (Fold × Cursor)
  | 0, _, _ => none
  | fuel + 1, fold, cursor =>
      match cursor.rest with
      | [] => some (fold, cursor)
      | character :: _ =>
          if Text.isSpace character then
            if fold.isBroken && character = '\t' && cursor.column <
              margin then none
            else
              foldQuoted? margin fuel (fold.addBlank character) (cursor.pass 1)
          else if Text.isLineEnd character then
            foldQuoted? margin fuel fold.addBreak cursor.skipBreak
          else some (fold, cursor)

private def quotedFrom? (quote : Char) (margin : Int) :
    (fuel : Nat) → (done : List Char) →
    Cursor → Option (String × Cursor)
  | 0, _, _ => none
  | fuel + 1, done, cursor =>
      if cursor.isAtMarker || cursor.rest.isEmpty || cursor.column <
        margin then none
      else
        match word? quote (cursor.rest.length + 1) done cursor with
        | none => none
        | some (done, fold, behind) =>
            if behind.rest.head? = some quote then
              some (String.ofList done.reverse, behind.skip 1)
            else
              match foldQuoted? margin (behind.rest.length + 1) fold behind with
              | none => none
              | some (fold, behind) =>
                  quotedFrom? quote margin fuel (fold.text ++ done) behind

def Cursor.quoted? (cursor : Cursor) (quote : Char) (margin : Int) :
    Option (String × Cursor) :=
  quotedFrom? quote margin (cursor.rest.length + 1) [] (cursor.skip 1)

end Collate.Config.Yaml
