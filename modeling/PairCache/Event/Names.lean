import PairCache.Event

/-!
Names for outputs and connections, so that events and answers can be compared: they are numbered in the
order in which they are first mentioned.
-/
namespace PairCache

structure Names where
  outputs : List Nat := []
  connections : List ConnectionId := []
deriving DecidableEq, Repr

namespace Names

def mention {α : Type} [DecidableEq α] (a : α) (known : List α) : List α :=
  if a ∈ known then known else known ++ [a]

def numbered (letter : String) (index : Nat) : String := letter ++ Decimal.text (index + 1)

def output (serial : Nat) : StateM Names String := do
  modify fun n => { n with outputs := mention serial n.outputs }
  return numbered "o" ((← get).outputs.idxOf serial)

def connection (id : ConnectionId) : StateM Names String := do
  modify fun n => { n with connections := mention id n.connections }
  return numbered "c" ((← get).connections.idxOf id)

def value : Event.Value → StateM Names String
  | .connection id => connection id
  | v => pure v.form

def event (e : Event Event.Value) : StateM Names (Event String) := do
  let fields ← e.fields.mapM fun (name, v) => do return (name, ← value v)
  return { level := e.level, target := e.target, message := e.message, fields, unkept := e.unkept }

end Names

end PairCache
