import Collate.Config.Settings

namespace Collate.Config

/-- A section: its fields by name, or in their order. -/
inductive Section (Node : Type) where
  | named (fields : List (String × Node))
  | ordered (items : List Node)

namespace Section

variable {Node : Type}

def field? (fields : Section Node) (name : String)
    (place : Nat) : Option Node :=
  match fields with
  | .named entries => Assoc.get? name entries
  | .ordered items => items[place]?

end Section

structure Reading (Node : Type) where
  parts? : (count : Nat) → Node → Option (Section Node)
  unsigned? : Node → Option Nat
  bool? : Node → Option Bool
  text? : Node → Option String

namespace Reading

variable {Node : Type}

/-- A missing field has its standard value; a field that is there has to be
readable. -/
def orStandard {α : Type} (read : Node → Option α) (standard : α) :
    Option Node → Option α
  | none => some standard
  | some node => read node

def storeSettings? (reading : Reading Node) (node : Node) :
    Option StoreSettings := do
  let fields ← reading.parts? 1 node
  let capacity ←
    orStandard reading.unsigned? StoreSettings.standard.capacity
      (fields.field? "capacity" 0)
  return { capacity }

def reaperSettings? (reading : Reading Node) (node : Node) :
    Option ReaperSettings := do
  let fields ← reading.parts? 3 node
  let standard := ReaperSettings.standard
  let enabled ←
    orStandard reading.bool? standard.enabled (fields.field? "enabled" 0)
  let interval ← orStandard reading.unsigned? standard.interval
    (fields.field? "interval_ms" 1)
  let groupTimeout ←
    orStandard reading.unsigned? standard.groupTimeout
      (fields.field? "group_timeout_ms" 2)
  return { enabled, interval, groupTimeout }

def settings? (reading : Reading Node) (node : Node) : Option Settings := do
  let fields ← reading.parts? 5 node
  let standard := Settings.standard
  let sendTimeout ←
    orStandard reading.unsigned? standard.sendTimeout
      (fields.field? "send_timeout_ms" 0)
  let partialOnExpiry ← orStandard reading.bool? standard.partialOnExpiry
    (fields.field? "send_partial_result_on_expiry" 1)
  let correlationHeader ←
    orStandard reading.text? standard.correlationHeader
      (fields.field? "correlation_header" 2)
  let store ←
    orStandard reading.storeSettings? standard.store (fields.field? "store" 3)
  let reaper ← orStandard reading.reaperSettings? standard.reaper
    (fields.field? "reaper" 4)
  return { sendTimeout, partialOnExpiry, correlationHeader, store, reaper }

end Reading

end Collate.Config
