import PairCache.Text.Outline

/-!
Values that several owners share. An object is told apart by where it lives: two objects may hold equal
values, and a pair of objects is a pair of addresses. `serial` numbers the objects in the order in which
they were made, so that it differs even where an address is used again.
-/
namespace PairCache

structure Object (α : Type) where
  serial : Nat
  address : Nat
  value : α
deriving DecidableEq, Repr

structure Pair where
  first : Nat
  second : Nat
deriving DecidableEq, Repr

namespace Pair

def of {α β : Type} (first : Object α) (second : Object β) : Pair := ⟨first.address, second.address⟩

def swap (p : Pair) : Pair := ⟨p.second, p.first⟩

def label (address : Nat) : String := "i" ++ Decimal.text address

def text (p : Pair) : String := "(" ++ label p.first ++ ", " ++ label p.second ++ ")"

def outline (p : Pair) : Outline := .atom ("IdentityPair" ++ p.text)

end Pair

end PairCache
