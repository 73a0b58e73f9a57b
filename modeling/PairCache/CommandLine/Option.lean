import PairCache.CommandLine.Entry
import PairCache.Text.Decimal

/-!
The options of the command line: their names, the environment variables that stand in for them, and how
their values are read.
-/
namespace PairCache.CommandLine

inductive Key where
  | first
  | second
  | flag
  | count
  | label
  | base
  | times
  | thenFlag
  | reuse
  | maxRuns
  | json
  | logJson
deriving DecidableEq, Repr

namespace Key

def all : List Key :=
  [.first, .second, .flag, .count, .label, .base, .times, .thenFlag, .reuse, .maxRuns, .json, .logJson]

def name : Key → String
  | .first => "first"
  | .second => "second"
  | .flag => "flag"
  | .count => "count"
  | .label => "label"
  | .base => "base"
  | .times => "repeat"
  | .thenFlag => "then-flag"
  | .reuse => "reuse-connections"
  | .maxRuns => "max-concurrent-runs"
  | .json => "json"
  | .logJson => "log-json"

def isSwitch : Key → Bool
  | .json | .logJson => true
  | _ => false

def isRepeatable : Key → Bool
  | .base => true
  | _ => false

def placeholder : Key → String
  | .base => "KEY=VALUE"
  | k => String.ofList (k.name.toList.map fun c => if c = '-' then '_' else c.toUpper)

def title (k : Key) : String :=
  "--" ++ k.name ++ if k.isSwitch then "" else " <" ++ k.placeholder ++ ">"

def environmentName? : Key → Option String
  | .first => some "TANDEM_FIRST"
  | .second => some "TANDEM_SECOND"
  | .times => some "TANDEM_REPEAT"
  | .reuse => some "TANDEM_REUSE_CONNECTIONS"
  | .maxRuns => some "TANDEM_MAX_CONCURRENT_RUNS"
  | .json => some "TANDEM_JSON"
  | .logJson => some "TANDEM_LOG_JSON"
  | _ => none

def ofName? (name : List Char) : Option Key := all.find? fun k => k.name.toList == name

end Key

inductive Item where
  | first (s : String)
  | second (s : String)
  | flag (b : Bool)
  | count (n : Int64)
  | label (s : String)
  | base (key : String) (value : Json)
  | times (n : UInt64)
  | thenFlag (b : Bool)
  | reuse (b : Bool)
  | maxRuns (n : UInt64)
  | json (b : Bool)
  | logJson (b : Bool)

def Item.key : Item → Key
  | .first _ => .first
  | .second _ => .second
  | .flag _ => .flag
  | .count _ => .count
  | .label _ => .label
  | .base _ _ => .base
  | .times _ => .times
  | .thenFlag _ => .thenFlag
  | .reuse _ => .reuse
  | .maxRuns _ => .maxRuns
  | .json _ => .json
  | .logJson _ => .logJson

inductive ValueFault where
  | noChoice
  | unreadable (message : String)
deriving DecidableEq, Repr

def readBool (cs : List Char) : Except ValueFault Bool :=
  if cs = "true".toList then .ok true
  else if cs = "false".toList then .ok false
  else .error .noChoice

def readCount (cs : List Char) : Except ValueFault Int64 :=
  ((Decimal.integer 9223372036854775807 cs).mapError fun e => .unreadable e.message).map Int64.ofInt

def readSize (cs : List Char) : Except ValueFault UInt64 :=
  ((Decimal.natural 18446744073709551615 cs).mapError fun e => .unreadable e.message).map UInt64.ofNat

def Key.read (value : String) (k : Key) : Except ValueFault Item :=
  let cs := value.toList
  match k with
  | .first => .ok (.first value)
  | .second => .ok (.second value)
  | .flag => (readBool cs).map .flag
  | .count => (readCount cs).map .count
  | .label => .ok (.label value)
  | .base =>
    ((readEntry cs).mapError fun e => .unreadable (e.message value)).map fun (key, v) => .base key v
  | .times => (readSize cs).map .times
  | .thenFlag => (readBool cs).map .thenFlag
  | .reuse => (readBool cs).map .reuse
  | .maxRuns => (readSize cs).map .maxRuns
  | .json => (readBool cs).map .json
  | .logJson => (readBool cs).map .logJson

end PairCache.CommandLine
