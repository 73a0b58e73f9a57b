import PairCache.Bundle
import PairCache.Cache.Stats
import PairCache.Derived
import PairCache.Descriptor

/-!
The report of some requests: the plugin that served them, the bundle that was derived of the inputs, what
became of each request, and the counters of the cache. It is written as text or as JSON.
-/
namespace PairCache

structure RequestOutcome where
  index : Nat
  parameters : String
  output : String
  origin : Origin
  computed : Bool
  diagnostics : List String
deriving DecidableEq, Repr

structure Report where
  plugin : Descriptor
  derived : Bundle
  requests : List RequestOutcome
  stats : CacheStats

namespace RequestOutcome

def toJson (r : RequestOutcome) : Json :=
  .object [("index", .ofInt r.index), ("parameters", .string r.parameters),
    ("output", .string r.output), ("origin", r.origin.toJson), ("computed", .bool r.computed),
    ("diagnostics", .array (r.diagnostics.map .string))]

def lines (r : RequestOutcome) : List String :=
  ("request " ++ Decimal.text r.index ++ ": " ++ r.parameters ++ " -> " ++ r.output ++
      (if r.computed then " [computed]" else " [reused]")) ::
    r.diagnostics.map ("  " ++ ·)

end RequestOutcome

namespace Report

def percent (ratio : Double) : String :=
  match ratio.mul? (.ofInt 100) with
  | some p => String.ofList (fixed 0 p.units Double.unit)
  | none => "inf"

/-- The counters in a line; there is none when the number of requests exceeds 64 bits. -/
def summary? (s : CacheStats) : Option String := do
  let requests ← s.requests?
  let ratio ← s.hitRatio?
  let count (n : UInt64) := Decimal.text n.toNat
  return "cache: " ++ count requests ++ " requests, " ++ count s.hits ++ " hits (" ++
    percent ratio ++ "%), " ++ count s.misses ++ " misses, " ++ count s.rejections ++
    " rejections, " ++ count s.computations ++ " computations, " ++ count s.failures ++ " failures"

def text? (r : Report) : Option String := do
  let summary ← summary? r.stats
  let title := r.plugin.name ++ " " ++ r.plugin.version ++ ": derived " ++ r.derived.render
  return "\n".intercalate (title :: r.requests.flatMap (·.lines) ++ [summary])

def toJson (r : Report) : Json :=
  .object [("plugin", r.plugin.toJson), ("derived", r.derived.toJson),
    ("requests", .array (r.requests.map (·.toJson))), ("stats", r.stats.toJson)]

end Report

end PairCache
