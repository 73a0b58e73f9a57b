import PairCache.Event.Directive

/-!
Which events are logged. A filter has directives, and of those about an event the one that says most
decides on its level. Without a directive about it, an event is not logged.
-/
namespace PairCache.Event

abbrev Filter := List Directive

namespace Filter

def splitAtCommas : List Char → List (List Char)
  | [] => [[]]
  | c :: cs =>
    if c = ',' then [] :: splitAtCommas cs
    else
      match splitAtCommas cs with
      | [] => [[c]]
      | part :: parts => (c :: part) :: parts

/-- Directives with commas between them; without any, only errors are logged. -/
def read (s : String) : Except Directive.Flaw Filter :=
  let parts := (splitAtCommas s.toList).filter fun part => !part.isEmpty
  if parts.isEmpty then .ok [⟨none, none, some .error⟩]
  else (parts.mapM Directive.read).map (·.filterMap id)

def standard : Filter := [⟨none, none, some .info⟩]

/-- The standard filter stands in for one that is missing or unreadable; there is none at all when a
directive is torn. -/
def ofVariable? : Option String → Option Filter
  | none => some standard
  | some s =>
    match read s with
    | .ok f => some f
    | .error .unreadable => some standard
    | .error .torn => none

def admits (level : Level) (directives : List Directive) : Bool :=
  match (Directive.first? directives).bind Directive.level with
  | some most => decide (level.rank ≤ most.rank)
  | none => false

/-- Whether some event of a level and target is logged, as far as can be told without its fields. -/
def mayLog (level : Level) (target : String) (f : Filter) : Bool :=
  admits level (f.filter (·.isAbout target))

def logs (e : Event Value) (f : Filter) : Bool :=
  admits e.level (f.filter (·.concerns e.target e.fieldNames))

def logged (events : List (Event Value)) (f : Filter) : List (Event Value) :=
  events.filter fun e => f.logs e

end Filter

end PairCache.Event
