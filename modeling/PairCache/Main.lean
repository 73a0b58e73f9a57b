import PairCache.CommandLine.Help
import PairCache.Program

/-!
The program as a process: arguments, environment and clock come in, the report goes to the standard
output and the logs to the standard error output.
-/
namespace PairCache.Terminal

def environment : IO CommandLine.Environment := do
  let found ← (CommandLine.Key.all.filterMap (·.environmentName?)).mapM fun name => do
    return (← IO.getEnv name).map (name, ·)
  return found.filterMap id

def measure (s : Settings) : IO Duration := do
  let begun ← IO.monoNanosNow
  let run := Select.run .zero (.plain s.request.first) (.plain s.request.second) {}
  unless run.lines.isEmpty do
    return .ofNanos ((← IO.monoNanosNow) - begun : Nat)
  return .zero

/-- The time is taken anew for each request, where the settings are valid. -/
def stopwatch (s : Settings) : IO Stopwatch := do
  unless s.validate.isOk do return .zero
  let times ← (List.range (s.request.times.toNat + 2)).mapM fun _ => measure s
  return ⟨fun index => times.getD index .zero⟩

def logLine (json : Bool) (e : Event Event.Value) : String :=
  if json then
    (Json.object [("level", .string e.level.name), ("fields", e.toJson),
      ("target", .string e.target)]).text
  else
    " ".intercalate ([e.level.name, e.target ++ ":", e.message] ++
      e.fields.map fun f => f.1 ++ "=" ++ f.2.form)

def run (arguments : List String) : IO UInt32 := do
  let environment ← environment
  let filter := Event.Filter.ofVariable? (← IO.getEnv "RUST_LOG")
  let watch ←
    match CommandLine.read arguments environment with
    | .ok s => stopwatch s
    | .error _ => pure .zero
  let (exit, json, logs) := Program.exec watch arguments environment filter
  for e in logs do
    IO.eprintln (logLine json e)
  match exit with
  | .stopped .help => IO.print CommandLine.helpText
  | .stopped .version => IO.println CommandLine.Stop.version.describe
  | .stopped stop => IO.eprintln ("error: " ++ stop.describe)
  | .reported report => IO.println report
  | .failed fault =>
    if filter.any Program.tellsFailure then IO.eprintln ("Error: " ++ fault.message)
  | .brokenOff => IO.eprintln "the filter of the logs is cut inside a character"
  return .ofNat exit.code

end PairCache.Terminal

def main (arguments : List String) : IO UInt32 := PairCache.Terminal.run arguments
