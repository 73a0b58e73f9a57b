import PairCache.CommandLine.Option
import PairCache.Descriptor

/-!
Why a command line is not carried out: something is wrong with it, or it asks for the help text or for
the version.
-/
namespace PairCache.CommandLine

inductive Stop where
  | unknownArgument (argument : String)
  /-- Not one of the values that there are, or none at all, shown as an empty text. -/
  | invalidValue (key : Key) (value : String)
  | unreadableValue (key : Key) (value message : String)
  | repeated (key : Key)
  | unneededValue (title value : String)
  | missing (keys : List Key)
  | help
  | version
deriving DecidableEq, Repr

namespace Stop

def arguments : Stop → List String
  | .unknownArgument a => [a]
  | .invalidValue k _ | .unreadableValue k _ _ | .repeated k => [k.title]
  | .unneededValue title _ => [title]
  | .missing keys => keys.map Key.title
  | .help | .version => []

def values : Stop → List String
  | .invalidValue _ v | .unreadableValue _ v _ | .unneededValue _ v => [v]
  | _ => []

def message? : Stop → Option String
  | .unreadableValue _ _ m => some m
  | .version => some ("tandem " ++ PairCache.version ++ "\n")
  | _ => none

end Stop

end PairCache.CommandLine
