import Collate.Text.Character

namespace Collate.Config.Yaml

def isFlowMark (character : Char) : Bool :=
  character = ',' || character = '[' || character = ']' || character =
    '\x7b' || character = '\x7d'

def isAddressCharacter (character : Char) : Bool :=
  character.isAlphanum || "-#;/?:@&=+$,_.!~*'()[]%".toList.contains character

def isTagCharacter (character : Char) : Bool :=
  isAddressCharacter character && !isFlowMark character && character ≠ '!'

def isAnchorCharacter (character : Char) : Bool :=
  !Text.isLineEnd character && !Text.isSpace character &&
    !isFlowMark character && character ≠ '\ufeff'

def endsLine : List Char → Bool
  | [] => true
  | character :: _ => Text.isLineEnd character

def endsWord : List Char → Bool
  | [] => true
  | character :: _ => Text.isLineEnd character || Text.isSpace character

def isMarker (mark : Char) : List Char → Bool
  | first :: second :: third :: rest =>
      first = mark && second = mark && third = mark && endsWord rest
  | _ => false

def isDocumentMarker (characters : List Char) : Bool :=
  isMarker '-' characters || isMarker '.' characters

def startsFlowMark (characters : List Char) : Bool :=
  characters.head?.any isFlowMark

end Collate.Config.Yaml
