import PairCache.Number.Layout
import PairCache.Text.Decimal

/-!
What a plugin is given: texts, truth values, characters, integers and binary numbers, each of one of
several kinds, and values that have no string form. `Input.form` is the string form, `Input.same` the
equality that derived parameters are flagged by; it holds only within one kind.
-/
namespace PairCache

inductive TextKind where
  | plain
  | boxed
  | shared
  | copyOnWrite
  | reference
deriving DecidableEq, Repr

inductive IntegerKind where
  | int8 | int16 | int32 | int64 | int128 | intSize
  | nat8 | nat16 | nat32 | nat64 | nat128 | natSize
deriving DecidableEq, Repr

namespace IntegerKind

def bits : IntegerKind → Nat
  | .int8 | .nat8 => 8
  | .int16 | .nat16 => 16
  | .int32 | .nat32 => 32
  | .int64 | .nat64 | .intSize | .natSize => 64
  | .int128 | .nat128 => 128

def isSigned : IntegerKind → Bool
  | .int8 | .int16 | .int32 | .int64 | .int128 | .intSize => true
  | _ => false

def read? (kind : IntegerKind) (cs : List Char) : Option Int :=
  if kind.isSigned then (Decimal.integer (Nat.pow 2 (kind.bits - 1) - 1) cs).toOption
  else (Decimal.natural (Nat.pow 2 kind.bits - 1) cs).toOption.map Int.ofNat

end IntegerKind

inductive Input where
  | text (kind : TextKind) (s : String)
  | bool (b : Bool)
  | char (c : Char)
  | integer (kind : IntegerKind) (i : Int)
  | single (bits : BitVec 32)
  | double (bits : BitVec 64)
  | formless (reason : String)
deriving DecidableEq, Repr

namespace Input

def plain (s : String) : Input := .text .plain s

/-- Binary numbers are written in full, without exponent, and whole ones without point. -/
def numbers : NumberStyle where
  tie := .up
  positional := none
  whole := []

def binaryForm (f : BinaryFormat) (negative : Bool) (magnitude : Nat) : List Char :=
  if f.infinity < magnitude then ['N', 'a', 'N']
  else
    (if negative then ['-'] else []) ++
      (if magnitude = f.infinity then ['i', 'n', 'f']
      else if magnitude = 0 then ['0']
      else numbers.write f magnitude)

def boolForm (b : Bool) : String := if b then "true" else "false"

def form : Input → Except String String
  | .text _ s => .ok s
  | .bool b => .ok (boolForm b)
  | .char c => .ok (String.singleton c)
  | .integer _ i => .ok (Decimal.intText i)
  | .single bits => .ok (String.ofList (binaryForm .single bits.msb (bits.toNat % BinaryFormat.single.sign)))
  | .double bits => .ok (String.ofList (binaryForm .double bits.msb (bits.toNat % BinaryFormat.double.sign)))
  | .formless reason => .error reason

/-- Equality of binary numbers: none that is not a number equals any, and both zeros are equal. -/
def sameMagnitudes (f : BinaryFormat) (m n : Nat) (sameSign : Bool) : Bool :=
  m == n && decide (m ≤ f.infinity) && (sameSign || m == 0)

def same : Input → Input → Bool
  | .text k s, .text l t => k == l && s == t
  | .bool a, .bool b => a == b
  | .char c, .char d => c == d
  | .integer k i, .integer l j => k == l && i == j
  | .single x, .single y =>
    sameMagnitudes .single (x.toNat % BinaryFormat.single.sign)
      (y.toNat % BinaryFormat.single.sign) (x.msb == y.msb)
  | .double x, .double y =>
    sameMagnitudes .double (x.toNat % BinaryFormat.double.sign)
      (y.toNat % BinaryFormat.double.sign) (x.msb == y.msb)
  | _, _ => false

end Input

end PairCache
