import PairCache.Connection
import PairCache.Table

/-!
The connections that are kept: at most one for each pair of inputs, the one that was put last.
-/
namespace PairCache

abbrev Store := Table Pair Connection

namespace Store

def put (s : Store) (c : Connection) : Store := s.insert c.pair c

def replacedBy? (s : Store) (c : Connection) : Option Connection := s.get? c.pair

inductive Access where
  | put (connection : Connection)
  | get (key : Pair)
  | remove (key : Pair)
  | clear

def access (s : Store) : Access → Option Connection × Store
  | .put c => s.exchange c.pair c
  | .get key => (s.get? key, s)
  | .remove key => s.take key
  | .clear => (none, .empty)

def outline (s : Store) : Outline :=
  .record "MemoryStore" [("connections", .nat s.size)] false

theorem get?_put (s : Store) (c : Connection) (key : Pair) :
    (s.put c).get? key = if key = c.pair then some c else s.get? key :=
  Table.get?_insert s c.pair key c

end Store

end PairCache
