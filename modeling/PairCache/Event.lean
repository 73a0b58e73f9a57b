import PairCache.Connection.Id
import PairCache.Object
import PairCache.Text.Outline

/-!
Events that the parts of the program give notice of: how grave they are, where they come from, a message
and named values.
-/
namespace PairCache

inductive Level where
  | error
  | warn
  | info
  | debug
  | trace
deriving DecidableEq, Repr

namespace Level

def all : List Level := [.error, .warn, .info, .debug, .trace]

def name : Level → String
  | .error => "ERROR"
  | .warn => "WARN"
  | .info => "INFO"
  | .debug => "DEBUG"
  | .trace => "TRACE"

/-- Places in `all`, from 1 on: the graver, the lower. -/
def rank : Level → Nat
  | .error => 1
  | .warn => 2
  | .info => 3
  | .debug => 4
  | .trace => 5

end Level

structure Event (ν : Type) where
  level : Level
  target : String
  message : String
  fields : List (String × ν) := []
  /-- Names of further fields, whose values are not kept. -/
  unkept : List String := []
deriving DecidableEq, Repr

namespace Event

inductive Value where
  | text (s : String)
  | bool (b : Bool)
  | nat (n : Nat)
  | pair (p : Pair)
  | connection (id : ConnectionId)
deriving DecidableEq, Repr

def Value.form : Value → String
  | .text s => s
  | .bool b => if b then "true" else "false"
  | .nat n => Decimal.text n
  | .pair p => p.text
  | .connection id => id.text

def Value.toJson : Value → Json
  | .bool b => .bool b
  | .nat n => .ofInt n
  | v => .string v.form

def fieldNames {ν : Type} (e : Event ν) : List String :=
  "message" :: e.fields.map (·.1) ++ e.unkept

def toJson (e : Event Value) : Json :=
  .object (("message", .string e.message) :: e.fields.map fun f => (f.1, f.2.toJson))

end Event

end PairCache
