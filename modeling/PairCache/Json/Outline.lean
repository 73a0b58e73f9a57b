import PairCache.Json.Printer
import PairCache.Text.Outline

namespace PairCache.Json

mutual

def outline : Json → Outline
  | .null => .atom "Null"
  | .bool b => .atom (if b then "Bool(true)" else "Bool(false)")
  | .number n => .atom ("Number(" ++ String.ofList n.write ++ ")")
  | .string s => .atom ("String(" ++ Quoted.ofString s ++ ")")
  | .array xs => .list "Array " (outlineItems xs)
  | .object xs => .dict "Object " (outlineMembers xs)

def outlineItems : List Json → List Outline
  | [] => []
  | x :: xs => outline x :: outlineItems xs

def outlineMembers : List (String × Json) → List (String × Outline)
  | [] => []
  | (k, x) :: xs => (k, outline x) :: outlineMembers xs

end

end PairCache.Json
