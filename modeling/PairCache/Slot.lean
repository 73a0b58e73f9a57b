import PairCache.Json.Decoder
import PairCache.Text.Outline

namespace PairCache

inductive Slot where
  | first
  | second
  | output
deriving DecidableEq, Repr

namespace Slot

def all : List Slot := [.first, .second, .output]

def label : Slot → String
  | .first => "FIRSTINPUT"
  | .second => "SECONDINPUT"
  | .output => "OUTPUT"

def toJson (s : Slot) : Json := .string s.label

def outline : Slot → Outline
  | .first => .atom "FirstInput"
  | .second => .atom "SecondInput"
  | .output => .atom "Output"

def ofLabel? (label : String) : Option Slot := all.find? fun s => s.label == label

def decoder : Json.Decoder Slot := .variant (all.map fun s => (s.label, s))

theorem ofLabel?_label (s : Slot) : ofLabel? s.label = some s := by
  cases s <;> decide

end Slot

end PairCache
