import Collate.Key
import Collate.Message

namespace Collate

abbrev Correlation := Message → Option Key

namespace Correlation

/-- The key that a header's value is: texts and whole numbers, also within a
document, where any number will do. -/
def keyOfValue : HeaderValue → Option Key
  | .text value => some ⟨value⟩
  | .integer value => some (Key.ofInt value)
  | .json (.text value) => some ⟨value⟩
  | .json (.number value) => some ⟨value.print⟩
  | _ => none

def byHeader (name : String) : Correlation := fun message =>
  (message.headers.get? name).bind keyOfValue

def standard : Correlation := byHeader Header.correlationId

end Correlation

end Collate
