/-!
Regular expressions, as far as it matters which of them can be used: how deep their parts stand within
each other (`Expression.depth`), and whether every part is to be had under the flags that are set where
it stands (`Expression.supports?`). There are no tables of letters: letter case, classes of characters
and boundaries of words are known for ASCII only, and what is matched stays text in any case.
-/
namespace PairCache.Event.Pattern

structure Changes where
  unicode : Option Bool := none
  caseless : Option Bool := none
  verbose : Option Bool := none
deriving DecidableEq, Repr

structure Flags where
  unicode : Bool := true
  caseless : Bool := false
deriving DecidableEq, Repr

def Flags.change (c : Changes) (f : Flags) : Flags :=
  ⟨c.unicode.getD f.unicode, c.caseless.getD f.caseless⟩

/-- One character; `byte` says that it is given as the number of a byte. -/
structure Literal where
  char : Char
  byte : Bool := false
deriving DecidableEq, Repr

inductive CharSet where
  | empty
  | literal (l : Literal)
  | range (low high : Literal)
  | shorthand (negated : Bool)
  | named (negated : Bool)
  | bracketed (negated : Bool) (inner : CharSet)
  | union (items : List CharSet)
  | operation (left right : CharSet)
deriving Repr, Inhabited

inductive Expression where
  | empty
  | flags (changes : Changes)
  | literal (l : Literal)
  | dot
  | anchor
  | boundary
  | shorthand (negated : Bool)
  | set (s : CharSet)
  | repetition (inner : Expression)
  | group (changes : Changes) (inner : Expression)
  | alternation (branches : List Expression)
  | sequence (items : List Expression)
deriving Repr, Inhabited

mutual

def CharSet.depth : CharSet → Nat
  | .empty | .literal _ | .range .. | .shorthand _ | .named _ => 0
  | .bracketed _ inner => inner.depth + 1
  | .union items => CharSet.depths items + 1
  | .operation left right => max left.depth right.depth + 1

def CharSet.depths : List CharSet → Nat
  | [] => 0
  | s :: rest => max s.depth (CharSet.depths rest)

end

mutual

def Expression.depth : Expression → Nat
  | .empty | .flags _ | .literal _ | .dot | .anchor | .boundary | .shorthand _ => 0
  | .set s => s.depth
  | .repetition inner | .group _ inner => inner.depth + 1
  | .alternation es | .sequence es => Expression.depths es + 1

def Expression.depths : List Expression → Nat
  | [] => 0
  | e :: rest => max e.depth (Expression.depths rest)

end

/-- A character in a set: its case would have to be known, or it has to be a byte of its own. -/
def Literal.fitsSet (f : Flags) (l : Literal) : Bool :=
  if f.unicode then !f.caseless else decide (l.char.toNat < 128)

mutual

/-- Whether a set can be had. Without Unicode no set may be more than ASCII, so that none is negated. -/
def CharSet.isSupported (f : Flags) : CharSet → Bool
  | .empty => true
  | .literal l => l.fitsSet f
  | .range low high => low.fitsSet f && high.fitsSet f
  | .shorthand negated => !f.unicode && !negated
  | .named negated => if f.unicode then !f.caseless else !negated
  | .bracketed negated inner => inner.isSupported f && (f.unicode || !negated)
  | .union items => CharSet.areSupported f items
  | .operation left right => left.isSupported f && right.isSupported f

def CharSet.areSupported (f : Flags) : List CharSet → Bool
  | [] => true
  | s :: rest => s.isSupported f && CharSet.areSupported f rest

end

/-- A character on its own: bytes from 128 on are no text. -/
def Literal.isSupported (f : Flags) (l : Literal) : Bool :=
  if f.unicode then !f.caseless else !(l.byte && decide (128 ≤ l.char.toNat))

def Flags.keep? (f : Flags) (b : Bool) : Option Flags := if b then some f else none

mutual

/-- The flags behind an expression that can be had. Changes of flags last until the group ends. -/
def Expression.supports? (f : Flags) : Expression → Option Flags
  | .empty | .anchor => some f
  | .flags changes => some (f.change changes)
  | .literal l => f.keep? (l.isSupported f)
  | .dot => f.keep? f.unicode
  | .boundary => f.keep? !f.unicode
  | .shorthand negated => f.keep? (!f.unicode && !negated)
  | .set s => f.keep? (s.isSupported f)
  | .repetition inner => inner.supports? f
  | .group changes inner => f.keep? (inner.supports? (f.change changes)).isSome
  | .alternation es | .sequence es => Expression.support? f es

def Expression.support? (f : Flags) : List Expression → Option Flags
  | [] => some f
  | e :: rest => (e.supports? f).bind fun f => Expression.support? f rest

end

def deepest : Nat := 250

def Expression.isUsable (e : Expression) : Bool :=
  decide (e.depth ≤ deepest) && (e.supports? {}).isSome

def CharSet.ofItems : List CharSet → CharSet
  | [] => .empty
  | [s] => s
  | items => .union items

def Expression.ofItems : List Expression → Expression
  | [] => .empty
  | [e] => e
  | items => .sequence items

def Expression.ofBranches : List Expression → Expression
  | [e] => e
  | branches => .alternation branches

def Expression.isRepeatable : Expression → Bool
  | .empty | .flags _ => false
  | _ => true

end PairCache.Event.Pattern
