import PairCache.Json.Decoder
import PairCache.Text.Outline

/-!
Counters of a cache. Every request that is looked up is a hit, a miss or a rejection; every run counts
as a computation, and as a failure too when it fails.
-/
namespace PairCache

structure CacheStats where
  hits : UInt64 := 0
  misses : UInt64 := 0
  rejections : UInt64 := 0
  computations : UInt64 := 0
  failures : UInt64 := 0
deriving DecidableEq, Repr

namespace CacheStats

def sum? (a b : UInt64) : Option UInt64 :=
  if a.toNat + b.toNat < UInt64.size then some (a + b) else none

/-- The requests that were looked up; nothing when their number exceeds 64 bits. -/
def requests? (s : CacheStats) : Option UInt64 := do
  sum? (← sum? s.hits s.misses) s.rejections

/-- Hits per request, zero when there was none. -/
def hitRatio? (s : CacheStats) : Option Double :=
  s.requests?.map fun n =>
    if n = 0 then Double.zero else (Double.ofInt s.hits.toNat).div (Double.ofInt n.toNat)

def toList (s : CacheStats) : List UInt64 :=
  [s.hits, s.misses, s.rejections, s.computations, s.failures]

def toJson (s : CacheStats) : Json :=
  .object [("hits", .ofUInt64 s.hits), ("misses", .ofUInt64 s.misses),
    ("rejections", .ofUInt64 s.rejections), ("computations", .ofUInt64 s.computations),
    ("failures", .ofUInt64 s.failures)]

def outline (s : CacheStats) : Outline :=
  .record "CacheStats"
    [("hits", .nat s.hits.toNat), ("misses", .nat s.misses.toNat),
      ("rejections", .nat s.rejections.toNat), ("computations", .nat s.computations.toNat),
      ("failures", .nat s.failures.toNat)] false

structure Draft where
  hits : Option UInt64 := none
  misses : Option UInt64 := none
  rejections : Option UInt64 := none
  computations : Option UInt64 := none
  failures : Option UInt64 := none

open Json.Decoder in
def decoder : Json.Decoder CacheStats :=
  let counter := uint64 "u64"
  record "CacheStats"
    [field "hits" Draft.hits (fun s a => { s with hits := some a }) counter false,
      field "misses" Draft.misses (fun s a => { s with misses := some a }) counter false,
      field "rejections" Draft.rejections (fun s a => { s with rejections := some a }) counter false,
      field "computations" Draft.computations (fun s a => { s with computations := some a })
        counter false,
      field "failures" Draft.failures (fun s a => { s with failures := some a }) counter false]
    {}
    fun s => do
      return {
        hits := ← required "hits" s.hits
        misses := ← required "misses" s.misses
        rejections := ← required "rejections" s.rejections
        computations := ← required "computations" s.computations
        failures := ← required "failures" s.failures }

end CacheStats

end PairCache
