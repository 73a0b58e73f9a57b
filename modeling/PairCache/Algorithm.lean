import PairCache.Bundle
import PairCache.Derived

/-!
Algorithms: what one does with two inputs and a bundle is a run, which reports lines and ends with an
output, a failure or a panic.
-/
namespace PairCache

inductive Outcome where
  | done (output : Derived)
  | failed (failure : Failure)
  | panicked
deriving DecidableEq, Repr

structure Run where
  lines : List String
  outcome : Outcome
deriving DecidableEq, Repr

structure Algorithm where
  name : String
  run : Input → Input → Bundle → Run

namespace Algorithm

def outcome (a : Algorithm) (first second : Input) (desired : Bundle) : Outcome :=
  (a.run first second desired).outcome

def RespectsSame (a : Algorithm) : Prop :=
  ∀ first second p q, Bundle.same p q = true → a.outcome first second p = a.outcome first second q

end Algorithm

end PairCache
