import PairCache.Cache.Config
import PairCache.Event
import PairCache.Settings.Output
import PairCache.Settings.Request

namespace PairCache

structure Settings where
  request : RequestSettings
  cache : CacheConfig := {}
  output : OutputSettings := {}

namespace Settings

inductive Fault where
  | request (fault : RequestSettings.Fault)
  | cache (failure : Failure)

def Fault.chain : Fault → List String
  | .request fault => ["invalid request configuration", fault.message]
  | .cache failure => ["invalid cache configuration", failure.message]

def validate (s : Settings) : Except Fault Unit := do
  s.request.validate.mapError .request
  s.cache.validate.mapError .cache

def toJson (s : Settings) : Json :=
  .object [("request", s.request.toJson), ("cache", s.cache.toJson), ("output", s.output.toJson)]

def outline (s : Settings) : Outline :=
  .record "Cli"
    [("request", s.request.outline), ("cache", s.cache.outline), ("output", s.output.outline)] false

structure Draft where
  request : Option RequestSettings := none
  cache : Option CacheConfig := none
  output : Option OutputSettings := none

open Json.Decoder in
def decoder : Json.Decoder Settings :=
  record "Cli"
    [field "request" Draft.request (fun s a => { s with request := some a })
        RequestSettings.decoder false,
      field "cache" Draft.cache (fun s a => { s with cache := some a }) CacheConfig.decoder false,
      field "output" Draft.output (fun s a => { s with output := some a })
        OutputSettings.decoder false]
    {}
    fun s => do
      return {
        request := ← required "request" s.request
        cache := ← required "cache" s.cache
        output := ← required "output" s.output }

def optional {α : Type} (outline : α → Outline) (o : Option α) : Event.Value :=
  .text (Outline.option (o.map outline)).line

def events (s : Settings) : List (Event Event.Value) :=
  let r := s.request
  let size (text : String) : Event.Value := .nat text.length
  [{ level := .info
     target := "tandem_cli::config"
     message := "request configuration"
     fields := [("first_len", size r.first), ("second_len", size r.second),
      ("flag", optional .bool r.flag),
      ("count", optional .int64 r.count),
      ("label", optional .quoted r.label), ("base_entries", .nat r.base.length),
      ("repeat", .nat r.times.toNat), ("then_flag", optional .bool r.thenFlag)] },
    { level := .info
      target := "tandem_cli::config"
      message := "cache configuration"
      fields := [("reuse_connections", .bool s.cache.reuse),
        ("max_concurrent_runs", .nat s.cache.maxRuns.toNat), ("json", .bool s.output.json)] }]

end Settings

end PairCache
