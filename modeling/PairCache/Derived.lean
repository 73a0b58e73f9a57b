import PairCache.Json.Decoder
import PairCache.Text.Outline

/-!
Outputs: the string form of one of the two inputs, and which of them it was.
-/
namespace PairCache

inductive Origin where
  | first
  | second
deriving DecidableEq, Repr

namespace Origin

def name : Origin → String
  | .first => "first"
  | .second => "second"

def toJson (o : Origin) : Json := .string o.name

def outline : Origin → Outline
  | .first => .atom "First"
  | .second => .atom "Second"

def decoder : Json.Decoder Origin := .variant [("first", .first), ("second", .second)]

end Origin

structure Derived where
  origin : Origin
  source : String
deriving DecidableEq, Repr

namespace Derived

def render (d : Derived) : String := "derived from " ++ d.source

def toJson (d : Derived) : Json :=
  .object [("origin", d.origin.toJson), ("source", .string d.source)]

def outline (d : Derived) : Outline :=
  .record "Derived" [("origin", d.origin.outline), ("source", .quoted d.source)] false

structure Draft where
  origin : Option Origin := none
  source : Option String := none

open Json.Decoder in
def decoder : Json.Decoder Derived :=
  record "Derived"
    [field "origin" Draft.origin (fun s a => { s with origin := some a }) Origin.decoder false,
      field "source" Draft.source (fun s a => { s with source := some a }) text false]
    {}
    fun s => do
      return { origin := ← required "origin" s.origin, source := ← required "source" s.source }

end Derived

end PairCache
