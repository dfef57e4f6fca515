import Collate.Log.Filter

namespace Collate.Log

structure Logger where
  filter : Filter
  isStructured : Bool
deriving Inhabited

namespace Logger

def environmentVariable : String := "CORRELATOR_ENV"

def applicationVariable : String := "APP_ENV"

def formatVariable : String := "CORRELATOR_LOG_FORMAT"

def filterVariable : String := "RUST_LOG"

def environment (lookUp? : String → Option String) : String :=
  ((lookUp? environmentVariable).orElse
    fun _ => lookUp? applicationVariable).getD "development"

def levelOf (environment : String) : Level :=
  if environment = "production" then .info else .debug

/-- The logger that the variables ask for. A filter that cannot be read counts
as none. -/
def ofVariables (lookUp? : String → Option String) : Logger :=
  { filter := ((lookUp? filterVariable).bind Filter.ofText?).getD
      (.ofLevel (levelOf (environment lookUp?)))
    isStructured :=
      (lookUp? formatVariable).any fun format => format.toLower = "json" }

def started (lookUp? : String → Option String) : Event :=
  let environment := environment lookUp?
  .loggingStarted environment (levelOf environment).name.toLower
    (ofVariables lookUp?).isStructured

end Logger

/-- What is logged in the course of time: nothing before the logger is started,
which happens once. -/
structure Journal where
  logger : Option Logger
  written : List Event
deriving Inhabited

namespace Journal

def empty : Journal := { logger := none, written := [] }

def log (journal : Journal) (event : Event) : Journal :=
  match journal.logger with
  | some logger =>
      if logger.filter.allows event then
        { journal with written := event :: journal.written }
      else journal
  | none => journal

def start (journal : Journal) (lookUp? : String → Option String) : Journal :=
  match journal.logger with
  | some _ => journal
  | none =>
      { journal with logger := some (.ofVariables lookUp?) }.log
        (Logger.started lookUp?)

def events (journal : Journal) : List Event := journal.written.reverse

def isStructured (journal : Journal) : Bool :=
  journal.logger.any Logger.isStructured

end Journal

end Collate.Log
