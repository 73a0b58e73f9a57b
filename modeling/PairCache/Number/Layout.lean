import PairCache.Number.Shortest

/-!
How the digits of a number are laid out: `plain` never uses an exponent, `scientific` puts one digit
before the point, `fixed` keeps a number of places after it. A `NumberStyle` says when the first
two apply.
-/
namespace PairCache

/-- The digits with the point after `point` of them; `whole` follows a number without fraction. -/
def plain (digits : List Char) (point : Int) (whole : List Char) : List Char :=
  if point ≤ 0 then
    '0' :: '.' :: List.replicate (-point).toNat '0' ++ digits
  else if (digits.length : Int) ≤ point then
    digits ++ List.replicate (point.toNat - digits.length) '0' ++ whole
  else digits.take point.toNat ++ '.' :: digits.drop point.toNat

def scientific (digits : List Char) (exponent : Int) : List Char :=
  let mantissa := match digits with
    | first :: second :: rest => first :: '.' :: second :: rest
    | short => short
  mantissa ++ 'e' :: (if exponent < 0 then '-' else '+') :: Nat.toDigits 10 exponent.natAbs

/-- What a kind of text asks of the numbers in it: the tie rule, the range of exponents written
without `e` (none written with it when absent), and what a whole number ends in. -/
structure NumberStyle where
  tie : Tie
  positional : Option (Int × Int)
  whole : List Char

def NumberStyle.write (style : NumberStyle) (f : BinaryFormat) (magnitude : Nat) : List Char :=
  let shortest := Shortest.decimal f style.tie magnitude
  let digits := Nat.toDigits 10 shortest.digits
  let exponent := shortest.exponent + digits.length - 1
  match style.positional with
  | none => plain digits (exponent + 1) style.whole
  | some (low, high) =>
    if low ≤ exponent ∧ exponent < high then plain digits (exponent + 1) style.whole
    else scientific digits exponent

/-- `n / d` with `places` digits after the point, rounded to the nearest, a half to the even. -/
def fixed (places n d : Nat) : List Char :=
  let digits := Nat.toDigits 10 (roundQuotient (n * Nat.pow 10 places) d)
  let padded := List.replicate (places + 1 - digits.length) '0' ++ digits
  if places = 0 then padded
  else padded.take (padded.length - places) ++ '.' :: padded.drop (padded.length - places)

end PairCache
