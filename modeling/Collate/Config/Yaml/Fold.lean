import Collate.Config.Yaml.Cursor

namespace Collate.Config.Yaml

/-- What has been passed over between two words of a scalar. -/
structure Fold where
  blanks : List Char
  isBroken : Bool
  hasBreak : Bool
  more : Nat

namespace Fold

def none : Fold :=
  { blanks := [], isBroken := false, hasBreak := false, more := 0 }

def joined : Fold := { none with isBroken := true }

def addBlank (fold : Fold) (blank : Char) : Fold :=
  if fold.isBroken then fold else { fold with blanks := blank :: fold.blanks }

def addBreak (fold : Fold) : Fold :=
  if fold.isBroken then { fold with more := fold.more + 1 }
  else { fold with blanks := [], isBroken := true, hasBreak := true }

def text (fold : Fold) : List Char :=
  if !fold.isBroken then fold.blanks
  else if fold.hasBreak && fold.more = 0 then [' ']
  else List.replicate fold.more '\n'

end Fold

end Collate.Config.Yaml
