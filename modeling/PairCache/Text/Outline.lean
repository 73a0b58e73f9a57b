import PairCache.Text.Decimal
import PairCache.Text.Quoted

/-!
Outlines show how a value is built: records with their fields, tuples, lists and dictionaries.
`Outline.line` writes one on a single line, `Outline.block` gives every part a line of its own with
four blanks of indent per level.
-/
namespace PairCache

inductive Outline where
  | atom (text : String)
  /-- `more` says that not all fields are shown. -/
  | record (name : String) (fields : List (String × Outline)) (more : Bool)
  | tuple (name : String) (items : List Outline)
  | list (title : String) (items : List Outline)
  | dict (title : String) (entries : List (String × Outline))
deriving Repr, Inhabited

namespace Outline

def quoted (s : String) : Outline := .atom (Quoted.ofString s)

def bool (b : Bool) : Outline := .atom (if b then "true" else "false")

def nat (n : Nat) : Outline := .atom (Decimal.text n)

def int64 (n : Int64) : Outline := .atom (Decimal.intText n.toInt)

def option : Option Outline → Outline
  | none => .atom "None"
  | some o => .tuple "Some" [o]

mutual

def line : Outline → String
  | .atom text => text
  | .record name [] false => name
  | .record name [] true => name ++ " \x7b .. \x7d"
  | .record name ((first, o) :: fs) more =>
    name ++ " \x7b " ++ first ++ ": " ++ line o ++ lineFields fs ++
      (if more then ", .. \x7d" else " \x7d")
  | .tuple name items => name ++ "(" ++ lineItems items ++ ")"
  | .list title items => title ++ "[" ++ lineItems items ++ "]"
  | .dict title [] => title ++ "\x7b\x7d"
  | .dict title ((key, o) :: es) =>
    title ++ "\x7b" ++ Quoted.ofString key ++ ": " ++ line o ++ lineEntries es ++ "\x7d"

def lineFields : List (String × Outline) → String
  | [] => ""
  | (name, o) :: fs => ", " ++ name ++ ": " ++ line o ++ lineFields fs

def lineItems : List Outline → String
  | [] => ""
  | [o] => line o
  | o :: os => line o ++ ", " ++ lineItems os

def lineEntries : List (String × Outline) → String
  | [] => ""
  | (key, o) :: es => ", " ++ Quoted.ofString key ++ ": " ++ line o ++ lineEntries es

end

def indent (level : Nat) : String := String.ofList (List.replicate (4 * level) ' ')

mutual

def blockAt (level : Nat) : Outline → String
  | .atom text => text
  | .record name [] false => name
  | .record name [] true => name ++ " \x7b .. \x7d"
  | .record name fields more =>
    name ++ " \x7b\n" ++ blockFields level fields ++
      (if more then indent (level + 1) ++ "..\n" else "") ++ indent level ++ "\x7d"
  | .tuple name items => name ++ "(\n" ++ blockItems level items ++ indent level ++ ")"
  | .list title [] => title ++ "[]"
  | .list title items => title ++ "[\n" ++ blockItems level items ++ indent level ++ "]"
  | .dict title [] => title ++ "\x7b\x7d"
  | .dict title es => title ++ "\x7b\n" ++ blockEntries level es ++ indent level ++ "\x7d"

def blockFields (level : Nat) : List (String × Outline) → String
  | [] => ""
  | (name, o) :: fs =>
    indent (level + 1) ++ name ++ ": " ++ blockAt (level + 1) o ++ ",\n" ++ blockFields level fs

def blockItems (level : Nat) : List Outline → String
  | [] => ""
  | o :: os => indent (level + 1) ++ blockAt (level + 1) o ++ ",\n" ++ blockItems level os

def blockEntries (level : Nat) : List (String × Outline) → String
  | [] => ""
  | (key, o) :: es =>
    indent (level + 1) ++ Quoted.ofString key ++ ": " ++ blockAt (level + 1) o ++ ",\n" ++
      blockEntries level es

end

def block (o : Outline) : String := blockAt 0 o

end Outline

end PairCache
