import Collate.Config.Yaml.Character

namespace Collate.Config.Yaml

structure Cursor where
  rest : List Char
  index : Nat
  line : Nat
  column : Nat
  isFresh : Bool

namespace Cursor

def start (text : List Char) : Cursor :=
  { rest := text, index := 0, line := 1, column := 0, isFresh := true }

def pass (cursor : Cursor) (count : Nat) : Cursor :=
  { cursor with
    rest := cursor.rest.drop count
    index := cursor.index + count
    column := cursor.column + count }

def skip (cursor : Cursor) (count : Nat) : Cursor :=
  { cursor.pass count with isFresh := cursor.isFresh && count = 0 }

def skipTo (cursor : Cursor) (rest : List Char) : Cursor :=
  cursor.skip (cursor.rest.length - rest.length)

def skipBreak (cursor : Cursor) : Cursor :=
  let (rest, count) := match cursor.rest with
    | '\r' :: '\n' :: rest => (rest, 2)
    | _ :: rest => (rest, 1)
    | [] => ([], 0)
  { rest, index := cursor.index + count, line := cursor.line + 1, column := 0,
    isFresh := true }

def isAtMarker (cursor : Cursor) : Bool :=
  cursor.column = 0 && isDocumentMarker cursor.rest

def skipBlanks (cursor : Cursor) : Cursor :=
  cursor.pass (cursor.rest.takeWhile Text.isSpace).length

def skipLine (cursor : Cursor) : Cursor :=
  cursor.skip
    (cursor.rest.takeWhile fun character => !Text.isLineEnd character).length

/-- Goes over blanks and a comment behind them. A comment needs a blank in front
of it. -/
def skipTail? (cursor : Cursor) : Option Cursor :=
  let behind := cursor.skipBlanks
  match behind.rest with
  | '#' :: _ =>
      if behind.index = cursor.index then none else some behind.skipLine
  | _ => some behind

private def gapFrom? (isMargin : Cursor → Bool) :
    (fuel : Nat) → (hasBreak : Bool) → Cursor →
    Option (Cursor × Bool)
  | 0, _, _ => none
  | fuel + 1, hasBreak, cursor =>
      match cursor.rest with
      | [] => some (cursor, hasBreak)
      | character :: _ =>
          if character = '\t' && isMargin cursor then do
            let behind ← cursor.skipTail?
            if endsLine behind.rest then gapFrom? isMargin fuel hasBreak behind
            else none
          else if Text.isSpace character then
            gapFrom? isMargin fuel hasBreak (cursor.pass 1)
          else if Text.isLineEnd character then
            gapFrom? isMargin fuel true cursor.skipBreak
          else if character = '#' then
            gapFrom? isMargin fuel hasBreak cursor.skipLine
          else some (cursor, hasBreak)

/-- Goes over blanks, ends of lines and comments, and says whether a line has
ended. A tab must not stand in a margin, unless nothing else follows in the
line. -/
def skipGap? (cursor : Cursor) (isMargin : Cursor → Bool) :
    Option (Cursor × Bool) :=
  gapFrom? isMargin (cursor.rest.length + 1) false cursor

private def spaceFrom? : (fuel : Nat) → (isFound hasBreak : Bool) → Cursor →
    Option (Cursor × Bool)
  | 0, _, _, _ => none
  | fuel + 1, isFound, hasBreak, cursor =>
      match cursor.rest with
      | [] => if isFound then some (cursor, hasBreak) else none
      | character :: _ =>
          if character = ' ' then spaceFrom? fuel true hasBreak (cursor.pass 1)
          else if Text.isLineEnd character then
            spaceFrom? fuel true true cursor.skipBreak
          else if character = '#' then
            spaceFrom? fuel isFound hasBreak cursor.skipLine
          else if isFound then some (cursor, hasBreak)
          else none

def skipSpace? (cursor : Cursor) : Option (Cursor × Bool) :=
  spaceFrom? (cursor.rest.length + 1) false false cursor

end Cursor

end Collate.Config.Yaml
