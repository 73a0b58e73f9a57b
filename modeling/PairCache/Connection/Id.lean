import PairCache.Json.Decoder
import PairCache.Text.Outline

/-!
Identifiers of connections: numbers of 128 bits, written as 32 hexadecimal digits in groups of 8, 4, 4,
4 and 12. They are read with or without hyphens, in braces, and as a name of the `urn:uuid:` kind.
-/
namespace PairCache

structure ConnectionId where
  number : Nat
deriving DecidableEq, Repr

namespace ConnectionId

def digits : Nat → Nat → List Char
  | 0, _ => []
  | count + 1, n => digits count (n / 16) ++ [Nat.digitChar (n % 16)]

def groups : List Nat := [8, 4, 4, 4, 12]

def hyphenate : List Nat → List Char → List Char
  | [], cs => cs
  | [_], cs => cs
  | size :: sizes, cs => cs.take size ++ '-' :: hyphenate sizes (cs.drop size)

def text (id : ConnectionId) : String := String.ofList (hyphenate groups (digits 32 id.number))

def toJson (id : ConnectionId) : Json := .string id.text

def outline (id : ConnectionId) : Outline := .atom id.text

def ungroup? : List Nat → List Char → Option (List Char)
  | [], _ => none
  | [_], cs => some cs
  | size :: sizes, cs =>
    match cs.drop size with
    | '-' :: rest => (ungroup? sizes rest).map (cs.take size ++ ·)
    | _ => none

def ofDigits? (cs : List Char) : Option ConnectionId :=
  if cs.length = 32 then (Json.hexNumber? cs).map ConnectionId.mk else none

def ofHyphenated? (cs : List Char) : Option ConnectionId :=
  if cs.length = 36 then ungroup? groups cs >>= ofDigits? else none

def urn : List Char := "urn:uuid:".toList

def read? (cs : List Char) : Option ConnectionId :=
  if cs.length = 32 then ofDigits? cs
  else if cs.length = 38 then
    if cs.head? = some '\x7b' ∧ cs.getLast? = some '\x7d' then ofHyphenated? (cs.drop 1).dropLast
    else none
  else if (cs.take urn.length).map Char.toLower = urn then ofHyphenated? (cs.drop urn.length)
  else ofHyphenated? cs

def decoder : Json.Decoder ConnectionId := .parsed "a formatted UUID string" read?

end ConnectionId

end PairCache
