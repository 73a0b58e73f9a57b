/-!
Sets of characters as ascending ranges of their numbers, ends included.
-/
namespace PairCache.Ranges

def within : List (Nat × Nat) → Nat → Bool
  | [], _ => false
  | (lo, hi) :: rest, n => if n < lo then false else if n ≤ hi then true else within rest n

end PairCache.Ranges
