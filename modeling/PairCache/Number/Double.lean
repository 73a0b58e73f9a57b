import PairCache.Number.Layout

/-!
Finite numbers of 64 bits. `Double.same` is numeric equality, which does not tell the two zeros
apart; `Double.ofDecimal?` reads a decimal as its digits, rounded, times or divided by a power of
ten, rounded, with one more rounding of the result.
-/
namespace PairCache

structure Double where
  negative : Bool
  magnitude : Nat
  finite : magnitude < BinaryFormat.double.infinity
deriving DecidableEq

namespace Double

instance : Repr Double := ⟨fun x _ => repr (x.negative, x.magnitude)⟩

def zero : Double := ⟨false, 0, by decide⟩

instance : Inhabited Double := ⟨zero⟩

def same (x y : Double) : Bool :=
  x.magnitude == y.magnitude && (x.negative == y.negative || x.magnitude == 0)

theorem same_refl (x : Double) : x.same x = true := by simp [same]

theorem same_symm {x y : Double} (h : x.same y = true) : y.same x = true := by
  simp only [same, Bool.and_eq_true, beq_iff_eq, Bool.or_eq_true] at h ⊢
  exact ⟨h.1.symm, h.2.elim (fun e => .inl e.symm) (fun e => .inr (h.1 ▸ e))⟩

theorem same_trans {x y z : Double} (h : x.same y = true) (k : y.same z = true) :
    x.same z = true := by
  simp only [same, Bool.and_eq_true, beq_iff_eq, Bool.or_eq_true] at h k ⊢
  refine ⟨h.1.trans k.1, ?_⟩
  rcases h.2 with h | h
  · rcases k.2 with k | k
    · exact .inl (h.trans k)
    · exact .inr (by omega)
  · exact .inr h

def ofMagnitude? (negative : Bool) (magnitude : Nat) : Option Double :=
  if h : magnitude < BinaryFormat.double.infinity then some ⟨negative, magnitude, h⟩ else none

def ofQuotient? (negative : Bool) (n d : Nat) : Option Double :=
  ofMagnitude? negative (BinaryFormat.double.nearest n d)

def ofQuotient (negative : Bool) (n d : Nat) : Double :=
  (ofQuotient? negative n d).getD ⟨negative, BinaryFormat.double.infinity - 1, by decide⟩

def units (x : Double) : Nat := BinaryFormat.double.units x.magnitude

def unit : Nat := Nat.pow 2 BinaryFormat.double.scale

def ofInt (i : Int) : Double := ofQuotient (decide (i < 0)) i.natAbs 1

def mul? (x y : Double) : Option Double :=
  ofQuotient? (x.negative != y.negative) (x.units * y.units) (unit * unit)

def div (x y : Double) : Double :=
  ofQuotient (x.negative != y.negative) x.units y.units

/-- The sum; an exact zero is positive. -/
def add (x y : Double) : Double :=
  let signed (z : Double) : Int := if z.negative then -(z.units : Int) else z.units
  let sum := signed x + signed y
  ofQuotient (decide (sum < 0)) sum.natAbs unit

/-- The largest power of ten that a decimal is scaled by in one go. -/
def tenLimit : Nat := 308

def ten (n : Nat) : Double := ofQuotient false (Nat.pow 10 n) 1

/-- Divides by ten to the power `n`, `tenLimit` places at a time; nothing is left to do at zero. -/
def shrink (x : Double) (n : Nat) : Double :=
  if n ≤ tenLimit then x.div (ten n)
  else if x.magnitude = 0 then x
  else shrink (x.div (ten tenLimit)) (n - tenLimit)
termination_by n
decreasing_by
  simp only [tenLimit] at *
  omega

def grow? (x : Double) (n : Nat) : Option Double :=
  if n ≤ tenLimit then x.mul? (ten n)
  else if x.magnitude = 0 then some x
  else none

def ofDecimal? (negative : Bool) (digits : Nat) (exponent : Int) : Option Double :=
  let x := ofQuotient false digits 1
  let scaled := if 0 ≤ exponent then x.grow? exponent.toNat else some (x.shrink exponent.natAbs)
  scaled.map fun y => { y with negative }

def hex (x : Double) : List Char :=
  let bits := x.magnitude + if x.negative then BinaryFormat.double.sign else 0
  let digits := Nat.toDigits 16 bits
  List.replicate (16 - digits.length) '0' ++ digits

end Double

end PairCache
