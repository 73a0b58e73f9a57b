import PairCache.Diagnostics
import PairCache.Plugin
import PairCache.Report
import PairCache.Select
import PairCache.Settings.Request

/-!
Sending requests through a plugin one after the other. The lines that the algorithm reports stay in a
buffer. `Runner.execute` makes the requests of some settings and reports on them.
-/
namespace PairCache

/-- How long the algorithm takes if it runs for the request with a number. -/
structure Stopwatch where
  time : Nat → Duration

def Stopwatch.zero : Stopwatch := ⟨fun _ => .zero⟩

structure Runner where
  plugin : Plugin
  buffer : Buffer := {}
  /-- Numbers the next call. -/
  next : CallId := 1
  made : Nat := 0
  events : List (Event Event.Value) := []

inductive RunFault where
  | derivation (failure : Failure)
  | request (index : Nat) (ending : Ending)

namespace RunFault

def endingMessage : Ending → String
  | .answered (.failed failure) => failure.message
  | .answered .panicked => "algorithm panicked"
  | .answered (.served _) | .answered (.removed _) | .cancelled => "no output"

def chain : RunFault → List String
  | .derivation failure => ["failed to derive parameters", failure.message]
  | .request index ending => ["request " ++ Decimal.text index ++ " failed", endingMessage ending]

end RunFault

namespace Runner

def tell (events : List (Event Event.Value)) (r : Runner) : Runner :=
  { r with events := r.events ++ events }

def act (f : Plugin → Plugin × List (Event Event.Value)) (r : Runner) : Runner :=
  let (plugin, events) := f r.plugin
  { r with plugin }.tell events

def step (s : Step) (r : Runner) : Runner := r.act (·.step s)

def advance (id : CallId) (r : Runner) : Runner := r.act (·.advance id)

/-- From now on the algorithm takes this long. -/
def timed (elapsed : Duration) (r : Runner) : Runner :=
  { r with plugin := { r.plugin with algorithm := Select.algorithm elapsed } }

def perform (first second : Input) (desired : Bundle) (r : Runner) :
    Outcome × Runner :=
  let run := r.plugin.algorithm.run first second desired
  (run.outcome,
    { r with buffer := r.buffer.reportAll run.lines }.tell (Plugin.selected desired run.outcome))

def call (first second : Object Input) (operation : Operation) (r : Runner) :
    Ending × Runner :=
  let id := r.next
  let r := ({ r with next := id + 1 }.step (.start id first second operation)).advance id
  let r :=
    match r.plugin.progress id with
    | .running a b desired =>
      let (outcome, r) := r.perform a b desired
      (r.step (.finish id outcome)).advance id
    | _ => r
  match r.plugin.progress id with
  | .over ending => (ending, r.step (.leave id))
  | _ => (.cancelled, r)

def connect (first second : Object Input) (desired : Bundle) (r : Runner) :
    Ending × Runner :=
  r.call first second (.request desired)

def take (r : Runner) : List String × Runner :=
  let (lines, buffer) := r.buffer.take
  (lines, { r with buffer })

def served (o : RequestOutcome) : Event Event.Value where
  level := .debug
  target := "tandem_cli::runner"
  message := "request served"
  fields := [("index", .nat o.index), ("computed", .bool o.computed), ("output", .text o.output)]

def request (watch : Stopwatch) (first second : Object Input) (index : Nat) (desired : Bundle)
    (r : Runner) : Except RunFault RequestOutcome × Runner :=
  let before := r.plugin.cache.stats.computations
  let (ending, r) := (r.timed (watch.time index)).connect first second desired
  match ending with
  | .answered (.served output) =>
    let (diagnostics, r) := r.take
    let outcome : RequestOutcome := {
      index
      parameters := desired.render
      output := output.value.render
      origin := output.value.origin
      computed := decide (before < r.plugin.cache.stats.computations)
      diagnostics }
    (.ok outcome, r.tell [served outcome])
  | ending => (.error (.request index ending), r)

/-- Makes requests one after the other, up to the first that is not served. -/
def requests (watch : Stopwatch) (first second : Object Input) :
    Nat → List Bundle → Runner → Except RunFault (List RequestOutcome) × Runner
  | _, [], r => (.ok [], r)
  | index, desired :: others, r =>
    match r.request watch first second index desired with
    | (.error fault, r) => (.error fault, r)
    | (.ok outcome, r) =>
      let (outcomes, r) := r.requests watch first second (index + 1) others
      (outcomes.map (outcome :: ·), r)

def descriptor : Descriptor where
  name := Select.name
  description :=
    "Selects the output derived from the first input when the flag is set, the second otherwise"
  author := some "tandem <contact@tandem.dev>"

def freshInputs (first second : String) (r : Runner) : (Object Input × Object Input) × Runner :=
  ((⟨r.made + 1, r.made + 1, .plain first⟩, ⟨r.made + 2, r.made + 2, .plain second⟩),
    { r with made := r.made + 2 })

def execute (watch : Stopwatch) (s : RequestSettings) (r : Runner) :
    Except RunFault Report × Runner :=
  let ((first, second), r) := r.freshInputs s.first s.second
  match Bundle.derive first.value second.value with
  | .error failure => (.error (.derivation failure), r)
  | .ok derived =>
    let (outcomes, r) := r.requests watch first second 1 (s.bundles derived)
    (outcomes.map fun requests =>
      { plugin := r.plugin.descriptor, derived, requests, stats := r.plugin.cache.stats }, r)

def ofConfig? (config : CacheConfig) : Except Failure Runner := do
  let cache ← Cache.ofConfig? config
  let plugin : Plugin := { descriptor, algorithm := Select.algorithm .zero, cache }
  return { plugin, events := [Cache.opened plugin.algorithm.name config, plugin.created] }

end Runner

end PairCache
