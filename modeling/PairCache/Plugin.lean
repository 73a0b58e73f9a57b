import PairCache.Cache.Events
import PairCache.Descriptor

/-!
A plugin: an algorithm behind a cache, under the descriptor that it is registered with. A call goes as
far as it can by itself (`Plugin.advance`) and then waits, runs the algorithm, or is over.
-/
namespace PairCache

structure Plugin where
  descriptor : Descriptor
  algorithm : Algorithm
  cache : Cache

inductive Progress where
  | waiting
  | running (first second : Input) (desired : Bundle)
  | over (ending : Ending)

namespace Plugin

def target : String := "tandem_core::algorithm"

def created (p : Plugin) : Event Event.Value where
  level := .debug
  target := target
  message := "plugin created"
  fields := [("plugin", .text p.descriptor.name), ("version", .text p.descriptor.version),
    ("algorithm", .text p.algorithm.name)]

def selected (desired : Bundle) : Outcome → List (Event Event.Value)
  | .done output =>
    [{ level := .debug
       target := target
       message := "selection completed"
       fields := [("origin", .text output.origin.name), ("flag", .bool desired.flag)]
       unkept := ["context_id", "elapsed_secs"] }]
  | .failed _ | .panicked => []

def events (s : Step) (p : Plugin) : List (Event Event.Value) := p.cache.events p.algorithm.name s

def step (s : Step) (p : Plugin) : Plugin × List (Event Event.Value) :=
  match p.cache.step? s with
  | some cache => ({ p with cache }, p.events s)
  | none => (p, [])

def advanceBy (id : CallId) : Nat → Plugin → Plugin × List (Event Event.Value)
  | 0, p => (p, [])
  | steps + 1, p =>
    match p.cache.next? id with
    | some s =>
      let (q, told) := p.step s
      let (r, more) := q.advanceBy id steps
      (r, told ++ more)
    | none => (p, [])

/-- Takes the steps that the call can take by itself; there are never more than two in a row. -/
def advance (id : CallId) (p : Plugin) : Plugin × List (Event Event.Value) := p.advanceBy id 2

def progress (id : CallId) (p : Plugin) : Progress :=
  match p.cache.calls.get? id with
  | none => .over .cancelled
  | some call =>
    match call.stage, call.operation with
    | .running, .request desired => .running call.first.value call.second.value desired
    | .leaving ending, _ => .over ending
    | _, _ => .waiting

def outline (p : Plugin) : Outline :=
  .record "Plugin"
    [("descriptor", p.descriptor.outline),
      ("cache", .record "ConnectionCache"
        [("algorithm", .quoted p.algorithm.name),
          ("context", .record "PluginContext"
            [("context_id", .atom "<id>"), ("created_at", .atom "<time>")] true),
          ("config", p.cache.config.outline),
          ("connections", .nat p.cache.size),
          ("stats", p.cache.stats.outline)] false)] false

end Plugin

end PairCache
