import Collate.Config.Reading
import Collate.Json.Basic
import Collate.Number.Integer

namespace Collate.Config

open Collate.Number (unsignedLimit)

private def sectionOf? (count : Nat) : Json → Option (Section Json)
  | .object fields => some (.named fields)
  | .array items => if items.length ≤ count then some (.ordered items) else none
  | _ => none

private def unsignedOf? (document : Json) : Option Nat :=
  document.nat?.filter fun value => value < unsignedLimit

def Reading.document : Reading Json where
  parts? := sectionOf?
  unsigned? := unsignedOf?
  bool? := Json.bool?
  text? := Json.text?

def Settings.ofDocument? (document : Json) : Option Settings :=
  Reading.document.settings? document

def ReaperSettings.ofDocument? (document : Json) : Option ReaperSettings :=
  Reading.document.reaperSettings? document

def Settings.toDocument (settings : Settings) : Json :=
  .ofFields
    [("send_timeout_ms", .ofNat settings.sendTimeout),
      ("send_partial_result_on_expiry", .bool settings.partialOnExpiry),
      ("correlation_header", .text settings.correlationHeader),
      ("store", .ofFields [("capacity", .ofNat settings.store.capacity)]),
      ("reaper", .ofFields
        [("enabled", .bool settings.reaper.enabled),
          ("interval_ms", .ofNat settings.reaper.interval),
          ("group_timeout_ms", .ofNat settings.reaper.groupTimeout)])]

end Collate.Config
