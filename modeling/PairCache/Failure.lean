import PairCache.Slot

namespace PairCache

inductive Failure where
  | malformedInput (slot : Slot) (source : String)
  | algorithm (message : String)
  | config (message : String)
  | internal (message : String)
deriving DecidableEq, Repr

namespace Failure

def message : Failure → String
  | .malformedInput slot source => "malformed input in slot " ++ slot.label ++ ": " ++ source
  | .algorithm m => "algorithm failed: " ++ m
  | .config m => "invalid configuration: " ++ m
  | .internal m => "internal error: " ++ m

def slot? : Failure → Option Slot
  | .malformedInput slot _ => some slot
  | _ => none

def source? : Failure → Option String
  | .malformedInput _ source => some source
  | _ => none

def isMalformedInput : Failure → Bool
  | .malformedInput _ _ => true
  | _ => false

def outline : Failure → Outline
  | .malformedInput slot source =>
    .record "MalformedInput" [("slot", slot.outline), ("source", .quoted source)] false
  | .algorithm m => .tuple "Algorithm" [.quoted m]
  | .config m => .tuple "Config" [.quoted m]
  | .internal m => .tuple "Internal" [.quoted m]

end Failure

end PairCache
