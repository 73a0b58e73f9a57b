import PairCache.Json.Decoder
import PairCache.Json.Outline

/-!
Base parameters: JSON values under names, in the order of the names. A later value under a name
replaces the earlier one, and nothing else changes (`get?_insert`). `collect` takes a whole sequence.
-/
namespace PairCache

structure Base where
  entries : List (String × Json)
  ordered : Sorted.Ordered entries

namespace Base

def empty : Base := ⟨[], .nil⟩

instance : Inhabited Base := ⟨empty⟩

def insert (key : String) (value : Json) (b : Base) : Base :=
  ⟨Sorted.insert key value b.entries, Sorted.ordered_insert b.ordered⟩

def ofList (entries : List (String × Json)) : Base :=
  entries.foldl (fun b e => b.insert e.1 e.2) empty

def collect (entries : List (String × Json)) : Base :=
  ⟨Sorted.collect entries, Sorted.ordered_collect entries⟩

def get? (b : Base) (key : String) : Option Json := Sorted.get? key b.entries

def contains (b : Base) (key : String) : Bool := (b.get? key).isSome

def size (b : Base) : Nat := b.entries.length

def isEmpty (b : Base) : Bool := b.entries.isEmpty

def same (a b : Base) : Bool := Json.sameMembers a.entries b.entries

def toJson (b : Base) : Json := .object b.entries

def outline (b : Base) : Outline :=
  .tuple "BaseParameters" [.dict "" (Json.outlineMembers b.entries)]

def decoder : Json.Decoder Base := .members insert empty .any

theorem get?_insert (b : Base) (key other : String) (value : Json) :
    (b.insert key value).get? other = if other = key then some value else b.get? other :=
  Sorted.get?_insert key other value b.entries

theorem same_refl (b : Base) : b.same b = true := Json.sameMembers_refl _

end Base

end PairCache
