/-!
Binary floating-point formats. A magnitude is the number that the bits below the sign spell; every
finite magnitude stands for a whole number of smallest steps (`units`), so that comparing, rounding
and multiplying are exact work on natural numbers. `nearest` rounds a quotient to the nearest
magnitude, a tie going to the even one.
-/
namespace PairCache

def roundQuotient (n d : Nat) : Nat :=
  if 2 * (n % d) < d then n / d
  else if d < 2 * (n % d) then n / d + 1
  else n / d + n / d % 2

/-- `fraction` bits follow the leading bit, and the exponent takes `exponent` bits. -/
structure BinaryFormat where
  fraction : Nat
  exponent : Nat
deriving DecidableEq, Repr

namespace BinaryFormat

def single : BinaryFormat := ⟨23, 8⟩

def double : BinaryFormat := ⟨52, 11⟩

variable (f : BinaryFormat)

def leading : Nat := Nat.pow 2 f.fraction

def sign : Nat := Nat.pow 2 (f.exponent + f.fraction)

/-- The first magnitude that stands for no number. -/
def infinity : Nat := (Nat.pow 2 f.exponent - 1) * f.leading

/-- The smallest step is `1 / 2 ^ scale`. -/
def scale : Nat := Nat.pow 2 (f.exponent - 1) + f.fraction - 2

def units (magnitude : Nat) : Nat :=
  if magnitude / f.leading = 0 then magnitude
  else (magnitude % f.leading + f.leading) * Nat.pow 2 (magnitude / f.leading - 1)

/-- The magnitude nearest to `n / d` smallest steps; past the largest one it is no number's. -/
def nearestUnits (n d : Nat) : Nat :=
  let shift := Nat.log2 (n / d) - f.fraction
  shift * f.leading + roundQuotient n (d * Nat.pow 2 shift)

def nearest (n d : Nat) : Nat := f.nearestUnits (n * Nat.pow 2 f.scale) d

theorem leading_pos : 0 < f.leading := Nat.two_pow_pos _

theorem units_zero : f.units 0 = 0 := by
  simp [units]

theorem units_pos {magnitude : Nat} (h : 0 < magnitude) : 0 < f.units magnitude := by
  unfold units
  split
  · exact h
  · exact Nat.mul_pos (by have := f.leading_pos; omega) (Nat.two_pow_pos _)

end BinaryFormat

end PairCache
