import PairCache.CommandLine.Read
import PairCache.Event.Filter
import PairCache.Runner

/-!
The program: it reads its command line, makes the requests that it is asked for and reports on them. Logs
go where the report does not, and a filter says which.
-/
namespace PairCache.Program

inductive Fault where
  | settings (fault : Settings.Fault)
  | cache (failure : Failure)
  | run (fault : RunFault)
  | overflow

def Fault.chain : Fault → List String
  | .settings fault => fault.chain
  | .cache failure => ["failed to create connection cache", failure.message]
  | .run fault => fault.chain
  | .overflow => ["attempt to add with overflow"]

def Fault.message (f : Fault) : String := ": ".intercalate f.chain

def started : Event Event.Value where
  level := .info
  target := "tandem_cli::startup"
  message := "starting tandem"
  fields := [("version", .text version)]

def built : Event Event.Value where
  level := .debug
  target := "tandem_cli::startup"
  message := "build information"
  fields := [("version", .text version), ("features", .text "[]")]
  unkept := ["pid", "arch", "os"]

def write (output : OutputSettings) (report : Report) : Except Fault String :=
  if output.json then .ok report.toJson.prettyText
  else
    match report.text? with
    | some text => .ok text
    | none => .error .overflow

def run (watch : Stopwatch) (s : Settings) : Except Fault String × List (Event Event.Value) :=
  let begun := built :: s.events
  match s.validate with
  | .error fault => (.error (.settings fault), begun)
  | .ok () =>
    match Runner.ofConfig? s.cache with
    | .error failure => (.error (.cache failure), begun)
    | .ok runner =>
      match runner.execute watch s.request with
      | (.error fault, r) => (.error (.run fault), begun ++ r.events)
      | (.ok report, r) => (write s.output report, begun ++ r.events)

inductive Exit where
  | stopped (stop : CommandLine.Stop)
  | reported (report : String)
  | failed (fault : Fault)
  | brokenOff

def Exit.code : Exit → Nat
  | .stopped .help | .stopped .version | .reported _ => 0
  | .failed _ => 1
  | .stopped _ => 2
  | .brokenOff => 101

/-- The last event; `target` is what a failure is told of under, if it is logged. -/
def ended (f : Event.Filter) : Exit → List (Event Event.Value)
  | .stopped _ | .brokenOff => []
  | .reported _ =>
    [{ level := .debug
       target := "tandem_cli::shutdown"
       message := "application terminated successfully" }]
  | .failed fault =>
    if f.mayLog .error "tandem" then
      [{ level := .error
         target := "tandem_cli::shutdown"
         message := "application terminated with error"
         fields := [("error", .text (fault.chain.headD ""))] }]
    else []

/-- Whether a failure is told of past the logs. -/
def tellsFailure (f : Event.Filter) : Bool := !f.mayLog .error "tandem"

def exec (watch : Stopwatch) (arguments : List String) (environment : CommandLine.Environment)
    (filter : Option Event.Filter) : Exit × Bool × List (Event Event.Value) :=
  match CommandLine.read arguments environment, filter with
  | .error stop, _ => (.stopped stop, false, [])
  | .ok s, none => (.brokenOff, s.output.logJson, [])
  | .ok s, some f =>
    let (result, events) := run watch s
    let exit := match result with
      | .ok report => Exit.reported report
      | .error fault => .failed fault
    (exit, s.output.logJson, f.logged (started :: events ++ ended f exit))

end PairCache.Program
