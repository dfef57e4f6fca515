namespace Collate.Text

def isSpace (character : Char) : Bool := character = ' ' || character = '\t'

def isLineEnd (character : Char) : Bool := character = '\n' || character = '\r'

def isNameCharacter (character : Char) : Bool :=
  character.isAlphanum || character = '_' || character = '-'

end Collate.Text
