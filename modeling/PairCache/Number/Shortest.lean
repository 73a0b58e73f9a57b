import PairCache.Number.Binary

/-!
The shortest decimal that still names a magnitude. Every real number strictly between the midpoints
to both neighbours rounds to the magnitude, the midpoints too when it is even. On the grids of one,
two, three and more digits the two neighbours of the exact value are tried; the first grid with a
hit is the shortest, and of two hits the nearer is taken.
-/
namespace PairCache

inductive Tie where
  | even
  | up
deriving DecidableEq, Repr

structure Scientific where
  digits : Nat
  exponent : Int
deriving DecidableEq, Repr

namespace Shortest

variable (f : BinaryFormat)

def leadingExponent (n d : Nat) : Int :=
  if d ≤ n then ((Nat.toDigits 10 (n / d)).length : Int) - 1
  else
    let places := (Nat.toDigits 10 (d / n)).length
    if n * Nat.pow 10 (places - 1) = d then 1 - (places : Int) else -(places : Int)

/-- A magnitude laid over the decimal grid with step `10 ^ exponent`: `value`, `low` and `high` are
the magnitude and its two midpoints, in parts of which a step has `step`. -/
structure Grid where
  exponent : Int
  step : Nat
  value : Nat
  low : Nat
  high : Nat
  closed : Bool

def Grid.of (magnitude : Nat) (exponent : Int) : Grid :=
  let up := Nat.pow 10 exponent.toNat
  let down := Nat.pow 10 (-exponent).toNat
  { exponent
    step := up * Nat.pow 2 (f.scale + 1)
    value := 2 * f.units magnitude * down
    low := (f.units (magnitude - 1) + f.units magnitude) * down
    high := (f.units magnitude + f.units (magnitude + 1)) * down
    closed := magnitude % 2 == 0 }

def Grid.covers (g : Grid) (k : Nat) : Bool :=
  if g.closed then g.low ≤ k * g.step && k * g.step ≤ g.high
  else g.low < k * g.step && k * g.step < g.high

def Grid.pick (g : Grid) (tie : Tie) : Option Nat :=
  let below := g.value / g.step
  match g.covers below, g.covers (below + 1) with
  | false, false => none
  | true, false => some below
  | false, true => some (below + 1)
  | true, true =>
    let gap := g.value % g.step
    if 2 * gap < g.step then some below
    else if g.step < 2 * gap then some (below + 1)
    else match tie with
      | .even => some (below + below % 2)
      | .up => some (below + 1)

def search (tie : Tie) (magnitude : Nat) : Nat → Int → Scientific
  | 0, exponent => ⟨(Grid.of f magnitude exponent).value / (Grid.of f magnitude exponent).step, exponent⟩
  | more + 1, exponent =>
    match (Grid.of f magnitude exponent).pick tie with
    | some k => ⟨k, exponent⟩
    | none => search tie magnitude more (exponent - 1)

/-- Ten points of the first grid are one of the next coarser; on the later grids, such a point was
tried before. -/
def leading (s : Scientific) : Scientific := if s.digits = 10 then ⟨1, s.exponent + 1⟩ else s

/-- Seventeen digits name every number of 64 bits. -/
def decimal (tie : Tie) (magnitude : Nat) : Scientific :=
  if magnitude = 0 then ⟨0, 0⟩
  else leading
    (search f tie magnitude 17 (leadingExponent (f.units magnitude) (Nat.pow 2 f.scale)))

end Shortest

end PairCache
