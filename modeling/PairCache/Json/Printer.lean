import PairCache.Json.Basic
import PairCache.Text.Decimal

/-!
The text of a JSON value. `Json.compact` has no blanks; `Json.pretty` puts every item and member on a
line of its own. Only quotes, backslashes and control characters are escaped, and a number that is
not whole always shows a point or an exponent.
-/
namespace PairCache.Json

def escape (c : Char) : List Char :=
  if c = '"' then ['\\', '"']
  else if c = '\\' then ['\\', '\\']
  else if c = '\n' then ['\\', 'n']
  else if c = '\r' then ['\\', 'r']
  else if c = '\t' then ['\\', 't']
  else if c.toNat = 8 then ['\\', 'b']
  else if c.toNat = 12 then ['\\', 'f']
  else if c.toNat < 32 then
    ['\\', 'u', '0', '0', (c.toNat / 16).digitChar, (c.toNat % 16).digitChar]
  else [c]

def quote (s : String) : List Char := '"' :: s.toList.flatMap escape ++ ['"']

/-- Exponents from -5 to 15 are written out, and a tie goes to the even digit. -/
def numbers : NumberStyle where
  tie := .even
  positional := some (-5, 16)
  whole := ['.', '0']

def writeDouble (x : Double) : List Char :=
  (if x.negative then ['-'] else []) ++
    (if x.magnitude = 0 then ['0', '.', '0'] else numbers.write .double x.magnitude)

def Number.write : Number → List Char
  | .whole i _ => Decimal.ofInt i
  | .float x => writeDouble x

mutual

def compact : Json → List Char
  | .null => ['n', 'u', 'l', 'l']
  | .bool true => ['t', 'r', 'u', 'e']
  | .bool false => ['f', 'a', 'l', 's', 'e']
  | .number n => n.write
  | .string s => quote s
  | .array [] => ['[', ']']
  | .array (x :: xs) => '[' :: compact x ++ compactItems xs
  | .object [] => ['\x7b', '\x7d']
  | .object ((k, x) :: xs) => '\x7b' :: quote k ++ ':' :: compact x ++ compactMembers xs

def compactItems : List Json → List Char
  | [] => [']']
  | x :: xs => ',' :: compact x ++ compactItems xs

def compactMembers : List (String × Json) → List Char
  | [] => ['\x7d']
  | (k, x) :: xs => ',' :: quote k ++ ':' :: compact x ++ compactMembers xs

end

def newline (level : Nat) : List Char := '\n' :: List.replicate (2 * level) ' '

mutual

def prettyAt (level : Nat) : Json → List Char
  | .array [] => ['[', ']']
  | .array (x :: xs) =>
    '[' :: newline (level + 1) ++ prettyAt (level + 1) x ++ prettyItems level xs
  | .object [] => ['\x7b', '\x7d']
  | .object ((k, x) :: xs) =>
    '\x7b' :: newline (level + 1) ++ quote k ++ ':' :: ' ' :: prettyAt (level + 1) x ++
      prettyMembers level xs
  | v => compact v

def prettyItems (level : Nat) : List Json → List Char
  | [] => newline level ++ [']']
  | x :: xs => ',' :: newline (level + 1) ++ prettyAt (level + 1) x ++ prettyItems level xs

def prettyMembers (level : Nat) : List (String × Json) → List Char
  | [] => newline level ++ ['\x7d']
  | (k, x) :: xs =>
    ',' :: newline (level + 1) ++ quote k ++ ':' :: ' ' :: prettyAt (level + 1) x ++
      prettyMembers level xs

end

def pretty (v : Json) : List Char := prettyAt 0 v

def text (v : Json) : String := String.ofList v.compact

def prettyText (v : Json) : String := String.ofList v.pretty

end PairCache.Json
