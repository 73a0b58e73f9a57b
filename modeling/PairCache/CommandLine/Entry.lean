import PairCache.Json.Reader
import PairCache.Text.Blank

/-!
Base parameters on the command line: a key, an equals sign and a value. Blanks around the key are left
out; a value that is JSON is read, and any other stands for itself.
-/
namespace PairCache.CommandLine

inductive EntryFault where
  | noEquals
  | emptyKey
deriving DecidableEq, Repr

def EntryFault.message (text : String) : EntryFault → String
  | .noEquals => "expected KEY=VALUE, got `" ++ text ++ "`"
  | .emptyKey => "empty key in `" ++ text ++ "`"

def splitAtEquals? (cs : List Char) : Option (List Char × List Char) :=
  match cs.dropWhile (· ≠ '=') with
  | [] => none
  | _ :: rest => some (cs.takeWhile (· ≠ '='), rest)

def entryValue (cs : List Char) : Json :=
  match Json.read cs with
  | .ok v => v
  | .error _ => .string (String.ofList cs)

def readEntry (cs : List Char) : Except EntryFault (String × Json) :=
  match splitAtEquals? cs with
  | none => .error .noEquals
  | some (key, value) =>
    match Blank.trim key with
    | [] => .error .emptyKey
    | c :: rest => .ok (String.ofList (c :: rest), entryValue value)

end PairCache.CommandLine
