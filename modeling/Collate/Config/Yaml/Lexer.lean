import Collate.Config.Yaml.Block
import Collate.Config.Yaml.Plain
import Collate.Config.Yaml.Quoted
import Collate.Config.Yaml.Tag

namespace Collate.Config.Yaml

/-! Where a collection begins that is laid out in lines is only known when the
mark of its first item or the colon behind its first key is met. So places where
keys may have begun are noted, and tokens put in front of them later. -/

/-- A collection in lines that has begun, or a place where one may begin. -/
structure Margin where
  outer : Int
  isBlock : Bool
deriving Inhabited

structure KeyMark where
  isPossible : Bool
  isRequired : Bool
  place : Nat
  index : Nat
  line : Nat
  column : Nat
deriving Inhabited

/-- A text that is being read, the tokens so far, and where the cursor stands in
collections. -/
structure Lexer where
  cursor : Cursor
  tokens : Array Token
  mayBeKey : Bool
  keyMarks : List KeyMark
  indent : Int
  margins : List Margin
  depth : Nat
  /-- Where a value may follow its colon without a blank, because its key stands
  between quotes or brackets. -/
  closeValueAt : Nat
  isMapping : Bool
  isPair : Bool

namespace Lexer

private def noKey : KeyMark :=
  { isPossible := false, isRequired := false, place := 0, index := 0, line :=
      0, column := 0 }

def start (text : List Char) : Lexer where
  cursor := .start text
  tokens := #[]
  mayBeKey := true
  keyMarks := [noKey]
  indent := -1
  margins := []
  depth := 0
  closeValueAt := 0
  isMapping := false
  isPair := false

private def inFlow (lexer : Lexer) : Bool := 0 < lexer.depth

private def push (lexer : Lexer) (token : Token) : Lexer :=
  { lexer with tokens := lexer.tokens.push token }

private def insert (lexer : Lexer) (place : Nat) (token : Token) : Lexer :=
  { lexer with tokens := lexer.tokens.insertIdxIfInBounds place token }

private def leaveFrom (column : Int) :
    List Margin → (indent : Int) → Array Token →
    List Margin × Int × Array Token
  | [], indent, tokens => ([], indent, tokens)
  | margin :: rest, indent, tokens =>
      if column < indent then
        leaveFrom column rest margin.outer
          (if margin.isBlock then tokens.push .blockEnd else tokens)
      else (margin :: rest, indent, tokens)

private def leaveBlocks (lexer : Lexer) (column : Int) : Lexer :=
  if lexer.inFlow then lexer
  else
    let (margins, indent, tokens) :=
      leaveFrom column lexer.margins lexer.indent lexer.tokens
    { lexer with margins, indent, tokens }

private def leaveGaps (lexer : Lexer) : Lexer :=
  let gaps := lexer.margins.takeWhile fun margin => !margin.isBlock
  { lexer with
    indent := (gaps.getLast?.map Margin.outer).getD lexer.indent
    margins := lexer.margins.drop gaps.length }

private def enterGap (lexer : Lexer) : Lexer :=
  if !lexer.inFlow && lexer.margins.head?.any Margin.isBlock then
    { lexer with
      margins := { outer := lexer.indent, isBlock := false } :: lexer.margins
      indent := lexer.indent + 1 }
  else lexer

/-- Begins a collection in lines at a column, unless one has begun there; its
token is put at a place among the tokens. -/
private def enterBlock (lexer : Lexer) (column : Int) (place : Nat)
    (token : Token) : Lexer :=
  if lexer.inFlow then lexer
  else
    let lexer := match lexer.margins with
      | { outer, isBlock := false } :: rest =>
          if lexer.indent ≤ column then
            { lexer with indent := outer, margins := rest }
          else lexer
      | _ => lexer
    if lexer.indent < column then
      { lexer with
        margins := { outer := lexer.indent, isBlock := true } :: lexer.margins
        indent := column }.insert place token
    else lexer

private def markKey (lexer : Lexer) : Lexer :=
  if !lexer.mayBeKey then lexer
  else
    let isRequired := !lexer.inFlow && lexer.indent = lexer.cursor.column
      && lexer.margins.head?.any Margin.isBlock
    let mark : KeyMark :=
      { isPossible := true
        isRequired
        place := lexer.tokens.size
        index := lexer.cursor.index
        line := lexer.cursor.line
        column := lexer.cursor.column }
    { lexer with keyMarks := mark :: lexer.keyMarks.drop 1 }

private def KeyMark.giveUp? (mark : KeyMark) : Option KeyMark :=
  if mark.isPossible && mark.isRequired then none
  else some { mark with isPossible := false }

private def dropKey? (lexer : Lexer) : Option Lexer :=
  match lexer.keyMarks with
  | mark :: rest =>
      (KeyMark.giveUp? mark).map
        fun mark => { lexer with keyMarks := mark :: rest }
  | [] => some lexer

def keyLimit : Nat := 1024

/-- In lines, a key has to end in the line where it begins, and must not be too
long. -/
private def dropLateKeys? (lexer : Lexer) : Option Lexer :=
  if lexer.inFlow then some lexer
  else do
    let keyMarks ← lexer.keyMarks.mapM fun mark =>
      if mark.isPossible && (mark.line < lexer.cursor.line
          || mark.index + keyLimit < lexer.cursor.index) then
        KeyMark.giveUp? mark
      else some mark
    return { lexer with keyMarks }

private def skipGap? (lexer : Lexer) : Option Lexer := do
  let (cursor, hasBreak) ← lexer.cursor.skipGap? fun cursor =>
    !lexer.margins.isEmpty && cursor.isFresh && cursor.column < lexer.indent
  return { lexer with
    cursor, mayBeKey := lexer.mayBeKey || hasBreak && !lexer.inFlow }

private def directive? (lexer : Lexer) : Option Lexer := do
  let lexer ← (lexer.leaveBlocks (-1)).dropKey?
  let (token, cursor) ← lexer.cursor.directive?
  return { lexer with cursor, mayBeKey := false }.push token

private def documentMarker? (lexer : Lexer) : Option Lexer := do
  let lexer ← (lexer.leaveBlocks (-1)).dropKey?
  let behind := lexer.cursor.skip 3
  let lexer := { lexer with mayBeKey := false }
  if isMarker '-' lexer.cursor.rest then
    return { lexer with cursor := behind }.push .documentStart
  else
    let cursor ← behind.skipTail?
    if endsLine cursor.rest then return { lexer with cursor }.push .documentEnd
    else none

def depthLimit : Nat := 255

private def openBracket? (lexer : Lexer) (token : Token) : Option Lexer := do
  let lexer := lexer.markKey.enterGap
  if depthLimit ≤ lexer.depth then none
  else
    return { lexer with
      cursor := ← (lexer.cursor.skip 1).skipTail?
      keyMarks := noKey :: lexer.keyMarks
      depth := lexer.depth + 1
      mayBeKey := true
      isMapping := lexer.isMapping || token = Token.flowMapping }.push token

private def endPair (lexer : Lexer) : Lexer :=
  if lexer.isPair then
    { lexer with isPair := false, isMapping := false }.push .flowMappingEnd
  else lexer

private def closeBracket? (lexer : Lexer) (token : Token) : Option Lexer := do
  let lexer ← lexer.dropKey?
  let lexer := if lexer.inFlow then
      { lexer with depth := lexer.depth - 1, keyMarks := lexer.keyMarks.drop 1 }
    else lexer
  let lexer := { lexer with mayBeKey := false }.endPair
  let cursor ← (lexer.cursor.skip 1).skipTail?
  return { lexer with
    cursor
    closeValueAt :=
      if lexer.inFlow then cursor.index else lexer.closeValueAt }.push token

private def comma? (lexer : Lexer) : Option Lexer := do
  let lexer ← lexer.dropKey?
  let lexer := { lexer with mayBeKey := true }.endPair
  return { lexer with cursor := ← (lexer.cursor.skip 1).skipTail? }.push .comma

private def item? (lexer : Lexer) : Option Lexer := do
  if lexer.inFlow || !lexer.mayBeKey then none
  else
    let column := lexer.cursor.column
    let behind := lexer.cursor.skip 1
    let hasTab := (behind.rest.takeWhile Text.isSpace).contains '\t'
    let lexer := lexer.enterBlock column lexer.tokens.size .blockSequence
    let cursor ← behind.skipTail?
    match hasTab, cursor.rest with
    | true, '-' :: rest => if endsWord rest then none else some ()
    | _, _ => some ()
    let lexer := { lexer with cursor }
    let lexer :=
      if cursor.rest.head?.any Text.isLineEnd || startsFlowMark cursor.rest then
        lexer.enterGap else lexer
    let lexer ← lexer.dropKey?
    return { lexer with mayBeKey := true }.push .item

private def key? (lexer : Lexer) : Option Lexer := do
  if !lexer.inFlow && !lexer.mayBeKey then none
  else
    let lexer :=
      if lexer.inFlow then { lexer with isMapping := true }
      else lexer.enterBlock lexer.cursor.column lexer.tokens.size .blockMapping
    let lexer ← lexer.dropKey?
    let (cursor, _) ← (lexer.cursor.skip 1).skipSpace?
    if cursor.rest.head? = some '\t' then none
    else return { lexer with cursor, mayBeKey := !lexer.inFlow }.push .key

private def behindColon? (cursor : Cursor) : Option Cursor := do
  let cursor := cursor.skip 1
  if cursor.rest.head? = some '\t' then
    let blanks := cursor.rest.takeWhile Text.isSpace
    let cursor ← cursor.skipTail?
    if !blanks.contains ' ' && cursor.rest.head?.any Text.isNameCharacter then
      none else some cursor
  else some cursor

/-- The colon of a value. The key stands where one has been noted, or else has
had a mark, or is empty. -/
private def value? (lexer : Lexer) : Option Lexer := do
  let line := lexer.cursor.line
  let column := lexer.cursor.column
  let mark := lexer.keyMarks.headD noKey
  let isPair := lexer.inFlow && !lexer.isMapping
  let lexer := { lexer with cursor := ← behindColon? lexer.cursor, isPair }
  if mark.isPossible then
    if isPair && mark.line < line then none
    else
      let lexer := lexer.insert mark.place .key
      let lexer :=
        if isPair then lexer.insert mark.place .flowMapping else lexer
      let lexer :=
        (lexer.enterBlock mark.column mark.place .blockMapping).enterGap
      return { lexer with
        keyMarks := { mark with isPossible := false } :: lexer.keyMarks.drop 1
        mayBeKey := false }.push .value
  else
    let lexer := if isPair then lexer.push .flowMapping else lexer
    if lexer.inFlow then
      return { lexer.enterGap with mayBeKey := false }.push .value
    else if !lexer.mayBeKey then none
    else
      let lexer :=
        (lexer.enterBlock column lexer.tokens.size .blockMapping).enterGap
      return { lexer with mayBeKey := true }.push .value

private def anchor? (lexer : Lexer) (token : String → Token) :
    Option Lexer := do
  let lexer := lexer.markKey
  let (name, cursor) ← lexer.cursor.anchor?
  return { lexer with cursor, mayBeKey := false }.push (token name)

private def tag? (lexer : Lexer) : Option Lexer := do
  let lexer := lexer.markKey
  let (token, cursor) ← lexer.cursor.tag? lexer.inFlow
  return { lexer with cursor, mayBeKey := false }.push token

private def block? (lexer : Lexer) (isFolded : Bool) : Option Lexer := do
  let lexer := lexer.markKey.leaveGaps
  let (text, cursor) ← lexer.cursor.block? isFolded lexer.indent
  return { lexer with cursor, mayBeKey := true }.push (.scalar false text)

private def mayFollowQuote (lexer : Lexer) (line : Nat)
    (cursor : Cursor) : Bool :=
  match cursor.rest with
  | [] => true
  | character :: _ =>
      Text.isLineEnd character || lexer.inFlow &&
        (character = ',' || character = ']' || character = '\x7d') ||
        character = ':' && (lexer.inFlow || cursor.line = line)

private def quoted? (lexer : Lexer) (quote : Char) : Option Lexer := do
  let lexer := lexer.markKey
  let (text, cursor) ← lexer.cursor.quoted? quote lexer.indent
  let cursor ← cursor.skipTail?
  if lexer.mayFollowQuote lexer.cursor.line cursor then
    let lexer ← { lexer with cursor, mayBeKey := false }.skipGap?
    return { lexer with closeValueAt := lexer.cursor.index }.push
      (.scalar false text)
  else none

private def plain? (lexer : Lexer) : Option Lexer := do
  let lexer := lexer.markKey.leaveGaps
  let (text, cursor) ← lexer.cursor.plain? lexer.inFlow (lexer.indent + 1)
  return { lexer with cursor, mayBeKey := cursor.isFresh }.push
    (.scalar true text)

private def isValue (lexer : Lexer) (rest : List Char) : Bool :=
  endsWord rest || lexer.inFlow &&
    (startsFlowMark rest || lexer.cursor.index = lexer.closeValueAt)

private def token? (lexer : Lexer) (character : Char)
    (rest : List Char) : Option Lexer :=
  match character with
  | '[' => lexer.openBracket? .flowSequence
  | '\x7b' => lexer.openBracket? .flowMapping
  | ']' => lexer.closeBracket? .flowSequenceEnd
  | '\x7d' => lexer.closeBracket? .flowMappingEnd
  | ',' => lexer.comma?
  | '-' => if endsWord rest then lexer.item? else lexer.plain?
  | '?' => if endsWord rest then lexer.key? else lexer.plain?
  | ':' => if lexer.isValue rest then lexer.value? else lexer.plain?
  | '*' => lexer.anchor? .reference
  | '&' => lexer.anchor? .anchor
  | '!' => lexer.tag?
  | '|' => if lexer.inFlow then lexer.plain? else lexer.block? false
  | '>' => if lexer.inFlow then lexer.plain? else lexer.block? true
  | '\'' => lexer.quoted? '\''
  | '"' => lexer.quoted? '"'
  | _ =>
      if character = '%' || character = '@' || character.toNat = 96 then none
        else lexer.plain?

private def finish? (lexer : Lexer) : Option (Array Token) := do
  let _ ← lexer.keyMarks.mapM KeyMark.giveUp?
  return (lexer.leaveBlocks (-1)).tokens

private def run? : (bound : Nat) → Lexer → Option (Array Token)
  | 0, _ => none
  | bound + 1, lexer => do
      let lexer ← lexer.skipGap?
      let lexer ← lexer.dropLateKeys?
      let lexer := lexer.leaveBlocks lexer.cursor.column
      match lexer.cursor.rest with
      | [] => lexer.finish?
      | character :: rest =>
          if lexer.cursor.column = 0 && character = '%' then
            run? bound (← lexer.directive?)
          else if lexer.cursor.isAtMarker then
            run? bound (← lexer.documentMarker?)
          else if lexer.cursor.column < lexer.indent then none
          else run? bound (← lexer.token? character rest)

end Lexer

def tokens? (text : List Char) : Option (Array Token) :=
  Lexer.run? (text.length + 1) (.start text)

end Collate.Config.Yaml
