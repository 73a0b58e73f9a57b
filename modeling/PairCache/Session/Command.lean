import PairCache.Bundle
import PairCache.Cache.Config
import PairCache.Derived

/-!
What can be asked of a plugin in a session. Inputs, bundles and requests go by names that the session
gives them. A request may bring commands that are carried out while the algorithm runs for it.
-/
namespace PairCache.Session

inductive BundleRef where
  | named (id : String)
  | made (of : Option String) (overrides : Bundle.Overrides)

inductive Command where
  | input (id : String) (value : Input)
  | rename (id of : String)
  | bundle (id : String) (bundle : BundleRef)
  | derive (id first second : String)
  | request (id : Option String) (first second : String) (bundle : BundleRef)
    (during : Option (List Command))
  | invalidate (id : Option String) (first second : String)
  | poll (id : String)
  | cancel (id : String)
  /-- Polls the open requests until none of them gets any further. -/
  | settle
  /-- Runs the algorithm past the cache. -/
  | run (first second : String) (bundle : BundleRef)
  | lookup (first second : String)
  | accepts (first second : String) (bundle : BundleRef)
  | clear
  | stats
  | config
  | identity (first second : String)
  | lines
  | outline (block : Bool)
  | outlineConnection (first second : String) (block : Bool)
  | storePut (first second : String) (bundle : BundleRef) (output : Derived)
  | storeGet (first second : String)
  | storeRemove (first second : String)
  | storeClear
  | storeInfo

mutual

def Command.weight : Command → Nat
  | .request _ _ _ _ during => weightDuring during + 1
  | _ => 1

def weightAll : List Command → Nat
  | [] => 0
  | c :: cs => c.weight + weightAll cs

def weightDuring : Option (List Command) → Nat
  | none => 0
  | some cs => weightAll cs

end

end PairCache.Session
