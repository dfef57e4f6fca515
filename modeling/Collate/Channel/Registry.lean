import Collate.Error
import Collate.Header

namespace Collate

structure Registry where
  entries : List (String × Channel)
deriving Inhabited

namespace Registry

def empty : Registry := ⟨[]⟩

def size (registry : Registry) : Nat := registry.entries.length

def register (registry : Registry) (name : String)
    (channel : Channel) : Registry :=
  ⟨Assoc.insert name channel registry.entries⟩

def get? (registry : Registry) (name : String) : Option Channel :=
  Assoc.get? name registry.entries

def unregister (registry : Registry) (name : String) : Registry :=
  ⟨Assoc.erase name registry.entries⟩

def resolve (registry : Registry) (name : String) : Except Error Channel :=
  match registry.get? name with
  | some channel => .ok channel
  | none => .error (.unknownChannel name)

def description (registry : Registry) : String :=
  let names := registry.entries.map fun entry => Text.quoted entry.1
  Text.described "ChannelRegistry"
    [("channels", "[" ++ ", ".intercalate names ++ "]")]

end Registry

end Collate
