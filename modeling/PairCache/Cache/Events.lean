import PairCache.Cache.Basic
import PairCache.Event

/-!
What the cache gives notice of: `Cache.events` of a step, read off the cache before the step. Notice is
given of steps that can be taken.
-/
namespace PairCache

namespace Cache

def target : String := "tandem_core::cache"

def event (level : Level) (message : String) (fields : List (String × Event.Value)) :
    Event Event.Value :=
  { level, target, message, fields }

def opened (algorithm : String) (config : CacheConfig) : Event Event.Value :=
  event .info "connection cache initialized"
    [("algorithm", .text algorithm), ("reuse_connections", .bool config.reuse),
      ("max_concurrent_runs", .nat config.maxRuns.toNat)]

def resolved (call : Call) (c : Cache) : List (Event Event.Value) :=
  let pair := ("pair", Event.Value.pair call.pair)
  match call.operation with
  | .invalidate =>
    (c.lookup call.pair).toList.map fun old =>
      event .debug "connection invalidated" [pair, ("connection_id", .connection old.id)]
  | .request desired =>
    match c.probe call.pair desired with
    | .accepted old =>
      [event .debug "connection accepted" [pair, ("connection_id", .connection old.id)]]
    | .rejected old =>
      [event .debug "connection rejected"
        [pair, ("connection_id", .connection old.id), ("stored", .text old.parameters.render),
          ("desired", .text desired.render)]]
    | .missing => [event .trace "no connection stored" [pair]]

def finished (algorithm : String) : Outcome → List (Event Event.Value)
  | .done _ =>
    let completed := event .debug "algorithm completed" [("algorithm", .text algorithm)]
    [{ completed with unkept := ["elapsed_secs"] }]
  | .failed failure =>
    [event .warn "algorithm failed"
      [("algorithm", .text algorithm), ("error", .text failure.message)]]
  | .panicked => []

def stored (call : Call) (c : Cache) : List (Event Event.Value) :=
  let pair := ("pair", Event.Value.pair call.pair)
  match call.stage with
  | .storing new =>
    match c.store.replacedBy? new with
    | some old =>
      [event .debug "connection replaced"
        [pair, ("connection_id", .connection new.id), ("replaced_id", .connection old.id)]]
    | none => [event .debug "connection stored" [pair, ("connection_id", .connection new.id)]]
  | _ => []

def events (algorithm : String) (c : Cache) : Step → List (Event Event.Value)
  | .resolve id => (c.calls.get? id).elim [] fun call => resolved call c
  | .finish _ outcome => finished algorithm outcome
  | .store id => (c.calls.get? id).elim [] fun call => stored call c
  | .clear => [event .debug "connection cache cleared" [("count", .nat c.size)]]
  | .start .. | .launch _ | .leave _ | .cancel _ => []

end Cache

end PairCache
