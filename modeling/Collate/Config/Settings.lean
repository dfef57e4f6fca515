import Collate.Error
import Collate.Header
import Collate.Reaper
import Collate.Text.Blank

namespace Collate.Config

/-- Settings of the store; a capacity of zero is no bound. -/
structure StoreSettings where
  capacity : Nat
deriving DecidableEq, Inhabited

structure ReaperSettings where
  enabled : Bool
  interval : Nat
  groupTimeout : Nat
deriving DecidableEq, Inhabited

structure Settings where
  /-- How long a channel may take for a reply, in milliseconds. -/
  sendTimeout : Nat
  partialOnExpiry : Bool
  correlationHeader : String
  store : StoreSettings
  reaper : ReaperSettings
deriving DecidableEq, Inhabited

namespace StoreSettings

def standard : StoreSettings := { capacity := 0 }

end StoreSettings

namespace ReaperSettings

def standard : ReaperSettings :=
  { enabled := true, interval := 1000, groupTimeout := 60000 }

def reaper (settings : ReaperSettings) : Reaper :=
  { enabled := settings.enabled
    interval := settings.interval
    timeout := settings.groupTimeout }

def validate (settings : ReaperSettings) : Except Error Unit :=
  if settings.enabled && settings.interval = 0 then
    .error (.configuration "reaper.interval_ms"
      "must be greater than zero when the reaper is enabled")
  else .ok ()

end ReaperSettings

namespace Settings

def standard : Settings where
  sendTimeout := 1000
  partialOnExpiry := false
  correlationHeader := Header.correlationId
  store := .standard
  reaper := .standard

/-- Refuses settings that the program cannot run with; the first such setting
counts. -/
def validate (settings : Settings) : Except Error Unit :=
  if settings.sendTimeout = 0 then
    .error (.configuration "send_timeout_ms" "must be greater than zero")
  else if Text.isBlankText settings.correlationHeader then
    .error (.configuration "correlation_header" "must not be empty")
  else settings.reaper.validate

end Settings

end Collate.Config
