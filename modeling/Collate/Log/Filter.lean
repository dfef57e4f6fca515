import Collate.Log.Directive

namespace Collate.Log

structure Filter where
  directives : List Directive
deriving Inhabited

namespace Filter

def ofLevel (level : Level) : Filter :=
  ⟨[{ target := none, span := none, field := none, rank := level.rank }]⟩

/-- A filter from its text, directives with commas between them. Without any
directive, it lets nothing through. -/
def ofText? (text : String) : Option Filter :=
  (((text.splitOn ",").filter fun part => !part.isEmpty).mapM
    Directive.ofText?).map Filter.mk

def directive? (filter : Filter) (event : Event) : Option Directive :=
  (filter.directives.filter fun directive => directive.concerns event).foldl
    (fun best directive =>
      match best with
      | some other => if other.givesWay directive then some directive else best
      | none => some directive)
    none

def allows (filter : Filter) (event : Event) : Bool :=
  match filter.directive? event with
  | some directive => event.level.rank ≤ directive.rank
  | none => false

end Filter

end Collate.Log
