import PairCache.Base
import PairCache.Failure
import PairCache.Input

/-!
Parameter bundles: a flag, a count, a label and base parameters. `Bundle.derive` makes one of two
inputs: whether they are equal, how many characters the first form has more than the second, and both
forms in a row. `Bundle.render` shows all but the base parameters.
-/
namespace PairCache

structure Bundle where
  base : Base := .empty
  flag : Bool := false
  count : Int64 := 0
  label : String := ""
deriving Inhabited

namespace Bundle

def formIn (slot : Slot) (input : Input) : Except Failure String :=
  input.form.mapError (.malformedInput slot)

def derive (first second : Input) : Except Failure Bundle := do
  let a ← formIn .first first
  let b ← formIn .second second
  return {
    flag := first.same second
    count := Int64.ofInt ((a.length : Int) - b.length)
    label := a ++ b }

def withBase (b : Bundle) (base : Base) : Bundle := { b with base }

def withFlag (b : Bundle) (flag : Bool) : Bundle := { b with flag }

def withCount (b : Bundle) (count : Int64) : Bundle := { b with count }

def withLabel (b : Bundle) (label : String) : Bundle := { b with label }

structure Overrides where
  flag : Option Bool := none
  count : Option Int64 := none
  label : Option String := none
  base : Option Base := none

def override (o : Overrides) (b : Bundle) : Bundle where
  flag := o.flag.getD b.flag
  count := o.count.getD b.count
  label := o.label.getD b.label
  base := o.base.getD b.base

def same (p q : Bundle) : Bool :=
  p.base.same q.base && p.flag == q.flag && p.count == q.count && p.label == q.label

def render (b : Bundle) : String :=
  "(" ++ b.label ++ "," ++ Decimal.intText b.count.toInt ++ "," ++ Input.boolForm b.flag ++ ")"

/-- Base parameters are left out when there are none. -/
def toJson (b : Bundle) : Json :=
  .object ((if b.base.isEmpty then [] else [("base", b.base.toJson)]) ++
    [("flag", .bool b.flag), ("count", .ofInt64 b.count), ("label", .string b.label)])

def outline (b : Bundle) : Outline :=
  .record "ParameterBundle"
    [("base", b.base.outline), ("flag", .bool b.flag),
      ("count", .int64 b.count), ("label", .quoted b.label)] false

structure Draft where
  base : Option Base := none
  flag : Option Bool := none
  count : Option Int64 := none
  label : Option String := none

open Json.Decoder in
def decoder : Json.Decoder Bundle :=
  record "ParameterBundle"
    [field "base" Draft.base (fun s a => { s with base := some a }) Base.decoder true,
      field "flag" Draft.flag (fun s a => { s with flag := some a }) bool false,
      field "count" Draft.count (fun s a => { s with count := some a }) int64 false,
      field "label" Draft.label (fun s a => { s with label := some a }) text false]
    {}
    fun s => do
      return {
        base := s.base.getD .empty
        flag := ← required "flag" s.flag
        count := ← required "count" s.count
        label := ← required "label" s.label }

theorem same_refl (b : Bundle) : b.same b = true := by
  simp [same, Base.same_refl]

end Bundle

end PairCache
