import PairCache.Bundle
import PairCache.Connection.Id
import PairCache.Derived
import PairCache.Object

/-!
A connection: two inputs, the output that an algorithm made of them, and a copy of the parameters that
it was made with. It accepts the requests whose parameters are the same.
-/
namespace PairCache

structure Connection where
  id : ConnectionId
  first : Object Input
  second : Object Input
  output : Object Derived
  parameters : Bundle

namespace Connection

def pair (c : Connection) : Pair := .of c.first c.second

def accepts (c : Connection) (desired : Bundle) : Bool := c.parameters.same desired

def addressOf (c : Connection) : Slot → Nat
  | .first => c.first.address
  | .second => c.second.address
  | .output => c.output.address

/-- How a connection is shown under the name `title`; its times are not shown. -/
def outline (title : String) (c : Connection) : Outline :=
  .record "Connection"
    [("id", .atom title),
      ("identity", c.pair.outline),
      ("parameters", c.parameters.outline),
      ("timing", .record "Timing" [("started_at", .atom "<time>"), ("ended_at", .atom "<time>")] false)]
    true

end Connection

end PairCache
