import PairCache.Algorithm
import PairCache.Cache.Config
import PairCache.Cache.Locks
import PairCache.Cache.Stats
import PairCache.Connection.Store

/-!
The cache keeps one connection for each pair of inputs. A request is served from the connection of its
pair when that accepts the request's parameters; otherwise the algorithm runs and its connection takes
the place of the old one.

Calls are under way side by side and take steps in any order. A call first asks for the lock of its
pair, and with the lock looks up the connection. A request that is not served asks for a permit to run;
with the permit it runs, gives the permit back and stores the new connection. It leaves the lock, and
then its handle on the lock goes. `Cache.step?` is what one step makes of the cache, or nothing where
the step cannot be taken; how a run ends comes from outside, with the step that ends it.
-/
namespace PairCache

inductive Operation where
  | request (desired : Bundle)
  | invalidate

inductive Answer where
  | served (output : Object Derived)
  | failed (failure : Failure)
  | panicked
  | removed (found : Bool)
deriving DecidableEq, Repr

inductive Ending where
  | answered (answer : Answer)
  | cancelled
deriving DecidableEq, Repr

inductive Stage where
  /-- Asks for the lock of its pair, or has just been let in. -/
  | locking
  /-- Has the lock and asks for a permit to run, or has just been given one. -/
  | permitting
  | running
  /-- The run is over and its connection is about to be stored. -/
  | storing (connection : Connection)
  /-- Only the handle on the lock is left. -/
  | leaving (ending : Ending)

structure Call where
  first : Object Input
  second : Object Input
  operation : Operation
  stage : Stage := .locking

namespace Call

def pair (c : Call) : Pair := .of c.first c.second

def moved (c : Call) (stage : Stage) : Call := { c with stage }

end Call

structure Cache where
  config : CacheConfig
  store : Store := .empty
  locks : Locks := {}
  permits : Gate
  stats : CacheStats := {}
  calls : Table CallId Call := .empty
  /-- Numbers the next connection and its output. -/
  next : Nat := 1

inductive Step where
  | start (id : CallId) (first second : Object Input) (operation : Operation)
  | resolve (id : CallId)
  | launch (id : CallId)
  | finish (id : CallId) (outcome : Outcome)
  | store (id : CallId)
  | leave (id : CallId)
  | cancel (id : CallId)
  | clear

inductive Probe where
  | accepted (connection : Connection)
  | rejected (connection : Connection)
  | missing

namespace Cache

def ofConfig (config : CacheConfig) : Cache where
  config := config
  permits := { free := config.maxRuns.toNat }

def ofConfig? (config : CacheConfig) : Except Failure Cache := do
  config.validate
  return ofConfig config

def lookup (pair : Pair) (c : Cache) : Option Connection := c.store.get? pair

def size (c : Cache) : Nat := c.store.size

def probe (pair : Pair) (desired : Bundle) (c : Cache) : Probe :=
  match c.lookup pair with
  | some connection =>
    if c.config.reuse && connection.accepts desired then .accepted connection
    else .rejected connection
  | none => .missing

def connect (call : Call) (desired : Bundle) (output : Derived) (c : Cache) : Connection where
  id := ⟨c.next⟩
  first := call.first
  second := call.second
  output := ⟨c.next, c.next, output⟩
  parameters := desired

def move (id : CallId) (call : Call) (stage : Stage) (c : Cache) : Cache :=
  { c with calls := c.calls.insert id (call.moved stage) }

def unlock (id : CallId) (call : Call) (ending : Ending) (c : Cache) : Cache :=
  move id call (.leaving ending) { c with locks := c.locks.exit id }

def unpermit (id : CallId) (c : Cache) : Cache := { c with permits := c.permits.leave id }

def count (update : CacheStats → CacheStats) (c : Cache) : Cache := { c with stats := update c.stats }

def permit (id : CallId) (call : Call) (c : Cache) : Cache :=
  move id call .permitting { c with permits := c.permits.enter id }

def start? (id : CallId) (first second : Object Input) (operation : Operation) (c : Cache) :
    Option Cache :=
  if c.calls.contains id then none
  else
    some { c with
      locks := (c.locks.grant id (.of first second)).enter id
      calls := c.calls.insert id { first, second, operation } }

def resolve? (id : CallId) (call : Call) (c : Cache) : Option Cache :=
  match call.stage, call.operation with
  | .locking, .invalidate =>
    if c.locks.admits id then
      some (unlock id call (.answered (.removed (c.lookup call.pair).isSome))
        { c with store := c.store.erase call.pair })
    else none
  | .locking, .request desired =>
    if c.locks.admits id then
      match c.probe call.pair desired with
      | .accepted connection =>
        some (unlock id call (.answered (.served connection.output))
          (c.count fun s => { s with hits := s.hits + 1 }))
      | .rejected _ =>
        some (permit id call (c.count fun s => { s with rejections := s.rejections + 1 }))
      | .missing => some (permit id call (c.count fun s => { s with misses := s.misses + 1 }))
    else none
  | _, _ => none

def launch? (id : CallId) (call : Call) (c : Cache) : Option Cache :=
  match call.stage with
  | .permitting =>
    if c.permits.admits id then
      some (move id call .running (c.count fun s => { s with computations := s.computations + 1 }))
    else none
  | _ => none

def finish? (id : CallId) (outcome : Outcome) (call : Call) (c : Cache) : Option Cache :=
  match call.stage, call.operation with
  | .running, .request desired =>
    let free := c.unpermit id
    match outcome with
    | .done output =>
      some (move id call (.storing (c.connect call desired output)) { free with next := c.next + 1 })
    | .failed failure =>
      some (unlock id call (.answered (.failed failure))
        (free.count fun s => { s with failures := s.failures + 1 }))
    | .panicked => some (unlock id call (.answered .panicked) free)
  | _, _ => none

def store? (id : CallId) (call : Call) (c : Cache) : Option Cache :=
  match call.stage with
  | .storing connection =>
    some (unlock id call (.answered (.served connection.output))
      { c with store := c.store.put connection })
  | _ => none

def leave? (id : CallId) (call : Call) (c : Cache) : Option Cache :=
  match call.stage with
  | .leaving _ => some { c with locks := c.locks.drop id, calls := c.calls.erase id }
  | _ => none

def cancel? (id : CallId) (call : Call) (c : Cache) : Option Cache :=
  match call.stage with
  | .locking => some (unlock id call .cancelled c)
  | .permitting => some (unlock id call .cancelled (c.unpermit id))
  | _ => none

def clear (c : Cache) : Cache := { c with store := .empty }

def access (a : Store.Access) (c : Cache) : Option Connection × Cache :=
  let (found, store) := c.store.access a
  (found, { c with store })

def step? (c : Cache) : Step → Option Cache
  | .start id first second operation => c.start? id first second operation
  | .resolve id => do c.resolve? id (← c.calls.get? id)
  | .launch id => do c.launch? id (← c.calls.get? id)
  | .finish id outcome => do c.finish? id outcome (← c.calls.get? id)
  | .store id => do c.store? id (← c.calls.get? id)
  | .leave id => do c.leave? id (← c.calls.get? id)
  | .cancel id => do c.cancel? id (← c.calls.get? id)
  | .clear => some c.clear

def run? (c : Cache) : List Step → Option Cache
  | [] => some c
  | s :: steps => do (← c.step? s).run? steps

/-- The step that a call can take on its own, neither waiting nor running. -/
def next? (id : CallId) (c : Cache) : Option Step := do
  let call ← c.calls.get? id
  match call.stage with
  | .locking => if c.locks.admits id then some (.resolve id) else none
  | .permitting => if c.permits.admits id then some (.launch id) else none
  | .storing _ => some (.store id)
  | .running | .leaving _ => none

end Cache

end PairCache
