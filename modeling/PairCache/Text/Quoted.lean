import PairCache.Text.Printable

/-!
Texts in double quotes as an outline of a value shows them: quotes and backslashes are escaped, the
common controls have short escapes, and a character that does not show is written by its number.
-/
namespace PairCache.Quoted

def escape (c : Char) : List Char :=
  if c = '\x00' then ['\\', '0']
  else if c = '\t' then ['\\', 't']
  else if c = '\r' then ['\\', 'r']
  else if c = '\n' then ['\\', 'n']
  else if c = '\\' then ['\\', '\\']
  else if c = '"' then ['\\', '"']
  else if Printable.shows c then [c]
  else ['\\', 'u', '\x7b'] ++ Nat.toDigits 16 c.toNat ++ ['\x7d']

def encode (cs : List Char) : List Char := '"' :: cs.flatMap escape ++ ['"']

def ofString (s : String) : String := String.ofList (encode s.toList)

end PairCache.Quoted
