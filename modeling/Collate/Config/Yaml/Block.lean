import Collate.Config.Yaml.Cursor

namespace Collate.Config.Yaml

/-- What becomes of the ends of lines at the end of a block. -/
private inductive Chomping where
  | strip
  | clip
  | keep
deriving DecidableEq

private structure BlockHeader where
  chomping : Chomping
  increment : Nat

private def chomping? : List Char → Option (Chomping × List Char)
  | '+' :: rest => some (.keep, rest)
  | '-' :: rest => some (.strip, rest)
  | _ => none

private def increment? : List Char → Option (Nat × List Char)
  | [] => some (0, [])
  | character :: rest =>
      if !character.isDigit then some (0, character :: rest)
      else if character = '0' then none
      else some (character.toNat - '0'.toNat, rest)

private def blockHeader? (characters : List Char) :
    Option (BlockHeader × List Char) :=
  match chomping? characters with
  | some (chomping, rest) =>
      (increment? rest).map
        fun (increment, rest) => ({ chomping, increment }, rest)
  | none => do
      let (increment, rest) ← increment? characters
      if increment = 0 then return ({ chomping := .clip, increment }, rest)
      else
        match chomping? rest with
        | some (chomping, rest) => return ({ chomping, increment }, rest)
        | none => return ({ chomping := .clip, increment }, rest)

private def skipMargin (indent : Nat) :
    (fuel : Nat) → (lines : Nat) → Cursor → Nat × Cursor
  | 0, lines, cursor => (lines, cursor)
  | fuel + 1, lines, cursor =>
      let spaces := (cursor.rest.takeWhile (· = ' ')).length
      let cursor := cursor.pass (min spaces (indent - cursor.column))
      if cursor.rest.head?.any Text.isLineEnd then
        skipMargin indent fuel (lines + 1) cursor.skipBreak
      else (lines, cursor)

private def findMargin :
    (fuel : Nat) → (greatest lines : Nat) → Cursor → Nat × Nat × Cursor
  | 0, greatest, lines, cursor => (greatest, lines, cursor)
  | fuel + 1, greatest, lines, cursor =>
      let cursor := cursor.pass (cursor.rest.takeWhile (· = ' ')).length
      let greatest := max greatest cursor.column
      if cursor.rest.head?.any Text.isLineEnd then
        findMargin fuel greatest (lines + 1) cursor.skipBreak
      else (greatest, lines, cursor)

private structure BlockText where
  done : List Char
  hasBreak : Bool
  emptyLines : Nat
  isIndented : Bool

/-- Adds a line. In a folded block, the end of the line before it may give way
to a space. -/
private def BlockText.add (text : BlockText) (isFolded : Bool)
    (line : List Char) : BlockText :=
  let isIndented := line.head?.any Text.isSpace
  let gap :=
    if isFolded && text.hasBreak && !text.isIndented && !isIndented then
      if text.emptyLines = 0 then [' '] else List.replicate text.emptyLines '\n'
    else List.replicate (text.hasBreak.toNat + text.emptyLines) '\n'
  { done := line.reverse ++ gap ++ text.done, hasBreak := false,
    emptyLines := 0, isIndented }

private def blockLines (isFolded : Bool) (indent : Nat) :
    (fuel : Nat) → BlockText → Cursor →
    BlockText × Cursor
  | 0, text, cursor => (text, cursor)
  | fuel + 1, text, cursor =>
      if cursor.column ≠ indent || cursor.rest.isEmpty || indent =
        0 && isMarker '.' cursor.rest then
        (text, cursor)
      else
        let line :=
          cursor.rest.takeWhile fun character => !Text.isLineEnd character
        let text := text.add isFolded line
        let cursor := cursor.pass line.length
        if cursor.rest.isEmpty then (text, cursor)
        else
          let (emptyLines, cursor) :=
            skipMargin indent cursor.rest.length 0 cursor.skipBreak
          blockLines isFolded indent fuel
            { text with hasBreak := true, emptyLines } cursor

private def emptyBlock (chomping : Chomping) (hasBreak : Bool)
    (emptyLines : Nat) : Nat :=
  match chomping with
  | .strip => 0
  | .clip => hasBreak.toNat
  | .keep => if hasBreak then max emptyLines 1 else 0

def Cursor.block? (cursor : Cursor) (isFolded : Bool) (outer : Int) :
    Option (String × Cursor) := do
  let (header, rest) ← blockHeader? (cursor.rest.drop 1)
  let behind ← (cursor.skipTo rest).skipTail?
  if !endsLine behind.rest then none
  else
    let hasBreak := !behind.rest.isEmpty
    let below := if hasBreak then behind.skipBreak else behind
    if below.rest.head? = some '\t' then none
    else
      let (indent, emptyLines, first) :=
        if 0 < header.increment then
          let indent := (max outer 0).toNat + header.increment
          let (lines, first) :=
            skipMargin indent (below.rest.length + 1) 0 below
          (indent, lines, first)
        else
          let (greatest, lines, first) :=
            findMargin (below.rest.length + 1) 0 0 below
          let indent := max greatest (outer + 1).toNat
          (if 0 < outer then max indent 1 else indent, lines, first)
      if first.rest.isEmpty then
        let count :=
          emptyBlock header.chomping (first.line ≠ cursor.line) emptyLines
        return (String.ofList (List.replicate count '\n'), first)
      else if first.column < indent && outer < first.column then none
      else
        let start : BlockText :=
          { done := [], hasBreak := false, emptyLines, isIndented := false }
        let (text, last) :=
          blockLines isFolded indent (first.rest.length + 1) start first
        let atEnd := last.rest.isEmpty && max indent 1 ≤ last.column
        let count := match header.chomping with
          | .strip => 0
          | .clip => text.hasBreak.toNat + atEnd.toNat
          | .keep => text.hasBreak.toNat + atEnd.toNat + text.emptyLines
        return (String.ofList (List.replicate count '\n' ++ text.done).reverse,
          last)

end Collate.Config.Yaml
