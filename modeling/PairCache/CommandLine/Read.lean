import PairCache.CommandLine.Arguments
import PairCache.Settings

/-!
The settings that a command line says. Options that are absent are taken from the environment, and what
is absent there too has a default or is missed.
-/
namespace PairCache.CommandLine

abbrev Environment := List (String × String)

def readEnvironment (environment : Environment) (items : List Item) :
    List Key → Except Stop (List Item)
  | [] => .ok []
  | key :: keys => do
    let item? ←
      match key.environmentName?.bind (environment.lookup ·) with
      | some value => if has key items then pure none else some <$> readValue key value
      | none => pure none
    return item?.toList ++ (← readEnvironment environment items keys)

structure Draft where
  first : Option String := none
  second : Option String := none
  flag : Option Bool := none
  count : Option Int64 := none
  label : Option String := none
  base : List (String × Json) := []
  times : Option UInt64 := none
  thenFlag : Option Bool := none
  reuse : Option Bool := none
  maxRuns : Option UInt64 := none
  json : Option Bool := none
  logJson : Option Bool := none

namespace Draft

def put (d : Draft) : Item → Draft
  | .first s => { d with first := some s }
  | .second s => { d with second := some s }
  | .flag b => { d with flag := some b }
  | .count n => { d with count := some n }
  | .label s => { d with label := some s }
  | .base key value => { d with base := d.base ++ [(key, value)] }
  | .times n => { d with times := some n }
  | .thenFlag b => { d with thenFlag := some b }
  | .reuse b => { d with reuse := some b }
  | .maxRuns n => { d with maxRuns := some n }
  | .json b => { d with json := some b }
  | .logJson b => { d with logJson := some b }

def settings (d : Draft) : Except Stop Settings :=
  match d.first, d.second with
  | some first, some second =>
    .ok {
      request := {
        first, second
        flag := d.flag
        count := d.count
        label := d.label
        base := d.base
        times := d.times.getD 2
        thenFlag := d.thenFlag }
      cache := { reuse := d.reuse.getD true, maxRuns := d.maxRuns.getD 10 }
      output := { json := d.json.getD false, logJson := d.logJson.getD false } }
  | first, second =>
    .error (.missing ((if first.isNone then [.first] else []) ++
      if second.isNone then [.second] else []))

end Draft

def read (arguments : List String) (environment : Environment) : Except Stop Settings := do
  let given ← readArguments arguments
  let items := given ++ (← readEnvironment environment given Key.all)
  (items.foldl Draft.put {}).settings

end PairCache.CommandLine
