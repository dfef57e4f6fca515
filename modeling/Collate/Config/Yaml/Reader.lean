import Collate.Config.Yaml.Lexer
import Collate.Config.Yaml.Node

namespace Collate.Config.Yaml

/-- The value of a text that holds at most one document. A text ends where a
character of code zero stands. -/
def read? (text : String) : Option Value := do
  let tokens ←
    tokens? (text.toList.takeWhile fun character => character.toNat ≠ 0)
  let node ← document? tokens.toList
  return node.toValue

end Collate.Config.Yaml
