import PairCache.Connection
import PairCache.Cache.Config
import PairCache.Cache.Stats

/-!
What a session answers: a reply to each command, and how things stand after it.
-/
namespace PairCache.Session

inductive Fault where
  /-- A name that stands for no input, and where it stands in the command. -/
  | unknownInput (place : String)
  | unknownBundle
  | noSuchRequest
  | requestIdInUse
  | noSharedStore
deriving DecidableEq, Repr

def Fault.message : Fault → String
  | .unknownInput place => "unknown input in " ++ place
  | .unknownBundle => "unknown bundle"
  | .noSuchRequest => "no such request"
  | .requestIdInUse => "request id in use"
  | .noSharedStore => "no shared store"

structure Shown where
  name : String
  connection : Connection
  output : String

inductive Result where
  | pending
  | served (output : Derived) (name : String)
  | removed (found : Bool)
  | failed (failure : Failure)
  | panicked

/-- How things stand; `opened` are the requests that are not over, in the order of their start. -/
structure Standing where
  stats : CacheStats
  size : Nat
  runs : Nat
  opened : List String

mutual

inductive Report where
  | of (reply : Reply) (standing : Standing)

inductive Polled where
  | of (result : Result) (during : Option (List Report))

inductive Reply where
  | done
  | refused (fault : Fault)
  | failed (failure : Failure)
  | bundle (b : Bundle)
  | polled (id : Option String) (polled : Polled)
  | cancelled
  | settled (completed : List (String × Polled))
  | ran (output : Derived)
  | panicked
  | found (connection : Option Shown)
  | replaced (connection : Option Shown)
  | removed (connection : Option Shown)
  | accepts (accepted : Option Bool)
  | stats
  | config (config : CacheConfig) (algorithm : String)
  | identity (pair : Pair)
  | lines (lines : Option (List String))
  | outline (text : Option String)
  | storeInfo (size : Nat) (outline : String)

end

end PairCache.Session
