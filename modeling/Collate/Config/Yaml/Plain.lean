import Collate.Config.Yaml.Fold

namespace Collate.Config.Yaml

private def word (inFlow : Bool) : List Char → List Char × List Char
  | [] => ([], [])
  | character :: rest =>
      if Text.isSpace character || Text.isLineEnd character || inFlow &&
        isFlowMark character || character =
        ':' && (endsWord rest || inFlow && startsFlowMark rest) then
        ([], character :: rest)
      else
        let (characters, behind) := word inFlow rest
        (character :: characters, behind)

/-- Goes over blanks and ends of lines. A tab must not stand in a margin, unless
nothing else follows in the line but a comment, with which the end of the line
is left out. -/
private def fold? (margin : Int) :
    (fuel : Nat) → Fold → Cursor → Option (Fold × Cursor)
  | 0, _, _ => none
  | fuel + 1, fold, cursor =>
      match cursor.rest with
      | [] => some (fold, cursor)
      | character :: _ =>
          if Text.isSpace character then
            if cursor.isFresh && character =
              '\t' && cursor.column < margin then do
              let behind ← cursor.skipTail?
              if endsLine behind.rest then
                fold? margin fuel
                  { fold with isBroken := behind.isFresh } behind
              else none
            else fold? margin fuel (fold.addBlank character) (cursor.pass 1)
          else if Text.isLineEnd character then
            fold? margin fuel fold.addBreak cursor.skipBreak
          else some (fold, cursor)

private def plainFrom? (inFlow : Bool) (margin : Int) :
    (fuel : Nat) → (done : List Char) →
    Fold → Cursor → Option (String × Cursor)
  | 0, _, _, _ => none
  | fuel + 1, done, fold, cursor =>
      let finished : Option (String × Cursor) :=
        some (String.ofList done.reverse, cursor)
      match cursor.rest with
      | [] => finished
      | first :: rest =>
          if cursor.isAtMarker || first = '#' then finished
          else if inFlow && first = '-' && startsFlowMark rest then none
          else
            let (characters, behind) := word inFlow (first :: rest)
            let done := if characters.isEmpty then done
                else characters.reverse ++ fold.text ++ done
            let cursor := cursor.skipTo behind
            let finished : Option (String × Cursor) :=
              some (String.ofList done.reverse, cursor)
            if behind.isEmpty || !endsWord behind then finished
            else
              match fold? margin (behind.length + 1) .none cursor with
              | none => none
              | some (fold, cursor) =>
                  if !inFlow && cursor.column < margin then
                    some (String.ofList done.reverse, cursor)
                  else plainFrom? inFlow margin fuel done fold cursor

def Cursor.plain? (cursor : Cursor) (inFlow : Bool) (margin : Int) :
    Option (String × Cursor) :=
  if inFlow && cursor.column < margin then none
  else plainFrom? inFlow margin (cursor.rest.length + 1) [] .none cursor

end Collate.Config.Yaml
