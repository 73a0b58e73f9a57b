import PairCache.Bundle

/-!
What is asked of the program: two inputs, values that take the place of derived ones, how many times the
request is made, and whether one more is made with another flag.
-/
namespace PairCache

structure RequestSettings where
  first : String
  second : String
  flag : Option Bool := none
  count : Option Int64 := none
  label : Option String := none
  /-- Base parameters in the order in which they were given; a later one under a name counts. -/
  base : List (String × Json) := []
  times : UInt64 := 2
  thenFlag : Option Bool := none

namespace RequestSettings

def mostTimes : UInt64 := 1000

inductive Fault where
  | never
  | tooOften (times : UInt64)
deriving DecidableEq, Repr

def Fault.message : Fault → String
  | .never => "repeat must be at least 1"
  | .tooOften n =>
    "repeat must not exceed " ++ Decimal.text mostTimes.toNat ++ ", got " ++ Decimal.text n.toNat

def validate (r : RequestSettings) : Except Fault Unit :=
  if r.times = 0 then .error .never
  else if mostTimes < r.times then .error (.tooOften r.times)
  else .ok ()

def overrides (r : RequestSettings) : Bundle.Overrides where
  flag := r.flag
  count := r.count
  label := r.label
  base := if r.base.isEmpty then none else some (.collect r.base)

def apply (r : RequestSettings) (derived : Bundle) : Bundle := derived.override r.overrides

def bundles (r : RequestSettings) (derived : Bundle) : List Bundle :=
  let desired := r.apply derived
  List.replicate r.times.toNat desired ++ (r.thenFlag.map desired.withFlag).toList

def toJson (r : RequestSettings) : Json :=
  .object [("first", .string r.first), ("second", .string r.second), ("flag", Json.ofOption .bool r.flag),
    ("count", Json.ofOption .ofInt64 r.count), ("label", Json.ofOption .string r.label),
    ("base", .array (r.base.map fun e => .array [.string e.1, e.2])),
    ("repeat", .ofUInt64 r.times), ("then_flag", Json.ofOption .bool r.thenFlag)]

def outline (r : RequestSettings) : Outline :=
  .record "RequestConfig"
    [("first", .quoted r.first), ("second", .quoted r.second), ("flag", .option (r.flag.map .bool)),
      ("count", .option (r.count.map .int64)), ("label", .option (r.label.map .quoted)),
      ("base", .list "" (r.base.map fun e => .tuple "" [.quoted e.1, e.2.outline])),
      ("repeat", .nat r.times.toNat), ("then_flag", .option (r.thenFlag.map .bool))] false

structure Draft where
  first : Option String := none
  second : Option String := none
  flag : Option (Option Bool) := none
  count : Option (Option Int64) := none
  label : Option (Option String) := none
  base : Option (List (String × Json)) := none
  times : Option UInt64 := none
  thenFlag : Option (Option Bool) := none

open Json.Decoder in
def decoder : Json.Decoder RequestSettings :=
  record "RequestConfig"
    [field "first" Draft.first (fun s a => { s with first := some a }) text false,
      field "second" Draft.second (fun s a => { s with second := some a }) text false,
      field "flag" Draft.flag (fun s a => { s with flag := some a }) (option bool) true,
      field "count" Draft.count (fun s a => { s with count := some a }) (option int64) true,
      field "label" Draft.label (fun s a => { s with label := some a }) (option text) true,
      field "base" Draft.base (fun s a => { s with base := some a }) (list (pair text any)) true,
      field "repeat" Draft.times (fun s a => { s with times := some a }) (uint64 "usize") false,
      field "then_flag" Draft.thenFlag (fun s a => { s with thenFlag := some a }) (option bool) true]
    {}
    fun s => do
      return {
        first := ← required "first" s.first
        second := ← required "second" s.second
        flag := s.flag.getD none
        count := s.count.getD none
        label := s.label.getD none
        base := s.base.getD []
        times := ← required "repeat" s.times
        thenFlag := s.thenFlag.getD none }

end RequestSettings

end PairCache
