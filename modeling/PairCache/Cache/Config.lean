import PairCache.Failure
import PairCache.Json.Decoder

/-!
Settings of a cache: whether stored outputs are used again, and how many runs may be under way at
once. There is at least one run, and no more than a counter of permits can hold.
-/
namespace PairCache

structure CacheConfig where
  reuse : Bool := true
  maxRuns : UInt64 := 10
deriving DecidableEq, Repr

namespace CacheConfig

def mostRuns : UInt64 := 2305843009213693951

def fault? (runs : UInt64) : Option String :=
  if runs = 0 then some "max_concurrent_runs must be at least 1"
  else if mostRuns < runs then
    some ("max_concurrent_runs must be at most " ++ Decimal.text mostRuns.toNat)
  else none

def validate (c : CacheConfig) : Except Failure Unit :=
  match fault? c.maxRuns with
  | some m => .error (.config m)
  | none => .ok ()

inductive Setting where
  | reuse (b : Bool)
  | maxRuns (n : UInt64)
deriving DecidableEq, Repr

def build (settings : List Setting) : Except String CacheConfig :=
  let config := settings.foldl (fun c s =>
    match s with
    | .reuse b => { c with reuse := b }
    | .maxRuns n => { c with maxRuns := n }) ({} : CacheConfig)
  match fault? config.maxRuns with
  | some m => .error m
  | none => .ok config

def toJson (c : CacheConfig) : Json :=
  .object [("reuse_connections", .bool c.reuse), ("max_concurrent_runs", .ofUInt64 c.maxRuns)]

def outline (c : CacheConfig) : Outline :=
  .record "CacheConfig"
    [("reuse_connections", .bool c.reuse), ("max_concurrent_runs", .nat c.maxRuns.toNat)] false

structure Draft where
  reuse : Option Bool := none
  maxRuns : Option UInt64 := none

open Json.Decoder in
def decoder : Json.Decoder CacheConfig :=
  record "CacheConfig"
    [field "reuse_connections" Draft.reuse (fun s a => { s with reuse := some a }) bool true,
      field "max_concurrent_runs" Draft.maxRuns (fun s a => { s with maxRuns := some a })
        (uint64 "usize") true]
    {}
    fun s => .ok { reuse := s.reuse.getD true, maxRuns := s.maxRuns.getD 10 }

theorem validate_default : validate {} = .ok () := rfl

end CacheConfig

end PairCache
