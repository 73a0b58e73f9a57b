import PairCache.Select

/-!
Algorithms for sessions: they select, but can be made to fail or to panic for some bundles.
-/
namespace PairCache

structure Behaviour where
  failOnNegative : Bool := false
  panicOnLabel : Option String := none
deriving DecidableEq, Repr

namespace Behaviour

def run (b : Behaviour) (first second : Input) (desired : Bundle) : Run :=
  if b.failOnNegative && decide (desired.count < 0) then
    ⟨[], .failed (.algorithm ("negative count " ++ Decimal.intText desired.count.toInt))⟩
  else if b.panicOnLabel = some desired.label then ⟨[], .panicked⟩
  else Select.run .zero first second desired

def algorithm (b : Behaviour) (name : String) : Algorithm := ⟨name, b.run⟩

end Behaviour

end PairCache
